/-
**What is signed of a request, and what is sent.**

A variant of the Shared Key scheme says which fields a signature covers and under which label it is
sent.  It is configured by its tag or by its name, and both spellings are exact.

The resource names the account and what the request is directed to.  The path is taken over as it
is written, escapes included, because the service recomputes the signature from the request line.
Of the query, Shared Key takes over every parameter in the order of the names, and the other
variants only the first value of `comp`.

In the string to sign each variant lays out the signed fields in its own order, one a line.  A
missing header field gives an empty line, so the number of lines depends on the variant, on the
service's own fields and on the lines of the resource only.  Content length, date and the service's
own date are read for every variant, also where they are not part of the layout.

The signature is the code of the string to sign under the key of the account, and is sent with the
label of the scheme and the name of the account.  The url of the request is given either as text or
as a request target that has been read before; the two ways differ in the path of the resource only.
Resource and string to sign are logged, once they are built, for a person who wants to know why a
signature was refused.  A step that fails leaves the records made before it.

Main definitions:

* `Variant` — the four variants;
* `Variant.tag`, `Variant.name`, `Variant.scheme` — its spellings, and the label of the scheme;
* `Variant.isTable` — whether it is meant for the table service;
* `Variant.parse` — the variant of a tag or a name;
* `LogRecord` — what is logged, with its wording in `LogRecord.message`;
* `Logged` — an answer with the records made on the way to it;
* `Logged.recording` — a step that records its text;
* `Logged.andThen` — one fallible step after another;
* `Resource.parameterLines` — the lines that Shared Key makes of the parameters;
* `Resource.tail` — what a variant takes over of the parameters;
* `Resource.build` — the resource of a path and a query;
* `Resource.hasEmptyPath` — whether the text of a url has no path;
* `Resource.ofTarget`, `Resource.ofUrl` — the resource of a request target, and of the text of one;
* `StringToSign.Part`, `StringToSign.layout` — the lines, and their order in each variant;
* `StringToSign.resolveDate` — which of the two dates stands in the date line;
* `StringToSign.build` — the string to sign of a request;
* `Authorization.signature`, `Authorization.headerText` — the signature, and the text that is sent;
* `Authorization.ofResource` — the steps from a resource to that text, with their records;
* `Authorization.ofUrl`, `Authorization.ofTarget` — the text for a request;
* `Authorization.headerValue` — the text as the sensitive value of a header field;
* `Authorization.addToHeaders` — a header map with the authorization of a request put in.

Main results:

* `Variant.parse_eq_ok_iff` — a variant is found under its two spellings, and under no other;
* `Variant.parse_eq_error_iff` — any other text is refused, and named in the error;
* `Logged.andThen_ok` — the records and the answer of two steps;
* `Resource.build_eq_of_parse`, `Resource.build_eq_ok_iff` — the shape of the resource of an
  accepted query, and that no other query has one;
* `Resource.kind_of_build` — a resource fails for its query only.
-/

import SharedKey.Credential
import SharedKey.Hash
import SharedKey.Header
import SharedKey.Query

set_option relaxedAutoImplicit false
set_option autoImplicit false

namespace SharedKey

/-! ### Variants -/

/-- The variants of the scheme. -/
inductive Variant
  /-- Shared Key for blobs, queues and files. -/
  | sharedKey
  /-- Shared Key for tables. -/
  | sharedKeyForTable
  /-- Shared Key Lite for blobs, queues and files. -/
  | sharedKeyLite
  /-- Shared Key Lite for tables. -/
  | sharedKeyLiteForTable
  deriving DecidableEq

namespace Variant

/-- The variant that is used when none is configured. -/
def default : Variant := .sharedKey

/-- All variants. -/
def all : List Variant := [.sharedKey, .sharedKeyForTable, .sharedKeyLite, .sharedKeyLiteForTable]

/-- The short spelling. -/
def tag : Variant → Text
  | .sharedKey => "sharedKey".toList
  | .sharedKeyForTable => "sharedKeyTable".toList
  | .sharedKeyLite => "sharedKeyLite".toList
  | .sharedKeyLiteForTable => "sharedKeyLiteTable".toList

/-- The full spelling. -/
def name : Variant → Text
  | .sharedKey => "SharedKey".toList
  | .sharedKeyForTable => "SharedKeyForTable".toList
  | .sharedKeyLite => "SharedKeyLite".toList
  | .sharedKeyLiteForTable => "SharedKeyLiteForTable".toList

/-- The label under which a signature is sent. -/
def scheme : Variant → Text
  | .sharedKey | .sharedKeyForTable => "SharedKey".toList
  | .sharedKeyLite | .sharedKeyLiteForTable => "SharedKeyLite".toList

/-- Whether the variant is meant for the table service. -/
def isTable : Variant → Bool
  | .sharedKey | .sharedKeyLite => false
  | .sharedKeyForTable | .sharedKeyLiteForTable => true

/-- The variant of a tag or a name. -/
def ofText? (t : Text) : Option Variant := all.find? fun v => v.tag = t ∨ v.name = t

/-- The variant of a tag or a name, or the error that names the text. -/
def parse (t : Text) : Except Error Variant :=
  match ofText? t with
  | some v => .ok v
  | none => .error (.unsupportedVariant t)

/-- A variant is found under its tag. -/
@[simp] theorem parse_tag (v : Variant) : parse v.tag = .ok v := by
  cases v <;> rfl

/-- A variant is found under its name. -/
@[simp] theorem parse_name (v : Variant) : parse v.name = .ok v := by
  cases v <;> rfl

/-- A text is read as the variant of which it is the tag or the name. -/
theorem parse_eq_ok_iff {t : Text} {v : Variant} :
    parse t = .ok v ↔ v.tag = t ∨ v.name = t := by
  constructor
  · intro h
    rw [parse] at h
    split at h
    · next w hw =>
        obtain rfl := Except.ok.inj h
        have hfound := List.find?_some hw
        rwa [decide_eq_true_eq] at hfound
    · cases h
  · rintro (rfl | rfl)
    · exact parse_tag v
    · exact parse_name v

/-- A text is refused where it is neither the tag nor the name of a variant. -/
theorem parse_eq_error_iff {t : Text} {e : Error} :
    parse t = .error e
      ↔ (∀ v : Variant, v.tag ≠ t ∧ v.name ≠ t) ∧ e = .unsupportedVariant t := by
  have hok : (∀ v : Variant, v.tag ≠ t ∧ v.name ≠ t) ↔ ∀ v, parse t ≠ .ok v := by
    simp only [ne_eq, parse_eq_ok_iff, not_or]
  rw [hok, parse]
  cases ofText? t with
  | some v => simp
  | none => simp [eq_comm]

end Variant

/-! ### Records -/

/-- What is logged. -/
inductive LogRecord
  /-- The canonicalized resource. -/
  | resource (text : Text)
  /-- The string to sign. -/
  | stringToSign (text : Text)
  deriving DecidableEq

/-- The wording of a record. -/
def LogRecord.message : LogRecord → Text
  | .resource text => "canonicalized resource: ".toList ++ text
  | .stringToSign text => "string to sign: ".toList ++ text

/-- The name of the level at which every record is made. -/
def LogRecord.level : Text := "DEBUG".toList

/-- An answer with the records made on the way to it. -/
structure Logged (α : Type) where
  /-- The records, the oldest first. -/
  records : List LogRecord
  /-- The answer. -/
  answer : α

namespace Logged

variable {α β : Type}

/-- An answer without records. -/
def silent (a : α) : Logged α := ⟨[], a⟩

/-- The same records with another answer. -/
def map (f : α → β) (x : Logged α) : Logged β := ⟨x.records, f x.answer⟩

/-- A step that records its text when it succeeds. -/
def recording (record : Text → LogRecord) : Except Error Text → Logged (Except Error Text)
  | .ok t => ⟨[record t], .ok t⟩
  | .error e => ⟨[], .error e⟩

/-- A step, and another one when the first succeeds. -/
def andThen (x : Logged (Except Error α)) (f : α → Logged (Except Error β)) :
    Logged (Except Error β) :=
  match x.answer with
  | .ok a => ⟨x.records ++ (f a).records, (f a).answer⟩
  | .error e => ⟨x.records, .error e⟩

@[simp] theorem answer_map (f : α → β) (x : Logged α) : (x.map f).answer = f x.answer := rfl

@[simp] theorem andThen_ok (records : List LogRecord) (a : α)
    (f : α → Logged (Except Error β)) :
    andThen ⟨records, .ok a⟩ f = ⟨records ++ (f a).records, (f a).answer⟩ := rfl

end Logged

/-! ### The canonicalized resource -/

namespace Resource

/-- The parameter that the variants other than Shared Key take over. -/
def compName : Text := "comp".toList

/-- The line of one name: all its values in order, between commas. -/
def parameterLine (parameters : Query.Parameters) (name : Text) : Text :=
  name ++ ':' :: Text.join [','] ((Query.valuesOf parameters name).mergeSort Text.le)

/-- One line for every name, in the order of the names. -/
def parameterLines (parameters : Query.Parameters) : List Text :=
  ((Query.names parameters).mergeSort Text.le).map (parameterLine parameters)

/-- What a variant takes over of the parameters. -/
def tail (parameters : Query.Parameters) : Variant → Text
  | .sharedKey =>
    if parameters.isEmpty then [] else '\n' :: Text.join ['\n'] (parameterLines parameters)
  | .sharedKeyForTable | .sharedKeyLite | .sharedKeyLiteForTable =>
    match (Query.valuesOf parameters compName).head? with
    | some value => "?comp=".toList ++ value
    | none => []

/-- The resource of a path and a query.  The query is read for every variant, also for those that
take over little of it. -/
def build (path query account : Text) (variant : Variant) : Except Error Text :=
  match Query.parse query with
  | .error e => .error e
  | .ok parameters =>
    .ok ('/' :: Credential.canonicalName account ++ path ++ tail parameters variant)

/-- The resource of a request target, with the path that a request line sends. -/
def ofTarget (target : Target) (account : Text) (variant : Variant) : Except Error Text :=
  build target.requestPath target.queryText account variant

/-- Whether nothing follows the authority of a url before its query, its fragment or its end.  A
target does not tell: its request path is the root there, so the text of the url is asked. -/
def hasEmptyPath (url : Text) (target : Target) : Bool :=
  match target.authority?, Text.after? Target.schemeMark url with
  | some authority, some rest =>
    authority.isPrefixOf rest && !(['/'].isPrefixOf (rest.drop authority.length))
  | _, _ => false

/-- The resource of a url given as text, with the path that stands in the text. -/
def ofUrl (url account : Text) (variant : Variant) : Except Error Text :=
  match Target.parse url with
  | .error reason => .error (.unreadableUrl url reason)
  | .ok target =>
    let path := if hasEmptyPath url target then [] else target.requestPath
    build path target.queryText account variant

/-- The shape of the resource of an accepted query. -/
theorem build_eq_of_parse {query : Text} {parameters : Query.Parameters}
    (h : Query.parse query = .ok parameters) (path account : Text) (variant : Variant) :
    build path query account variant
      = .ok ('/' :: Credential.canonicalName account ++ path ++ tail parameters variant) := by
  rw [build, h]

/-- A resource is built of an accepted query, and has that shape. -/
theorem build_eq_ok_iff {path query account resource : Text} {variant : Variant} :
    build path query account variant = .ok resource
      ↔ ∃ parameters, Query.parse query = .ok parameters
        ∧ resource
          = '/' :: Credential.canonicalName account ++ path ++ tail parameters variant := by
  rw [build]
  cases Query.parse query with
  | error e => simp
  | ok parameters => simp [eq_comm]

/-- A resource fails for its query only. -/
theorem kind_of_build {path query account : Text} {variant : Variant} {e : Error}
    (h : build path query account variant = .error e) : e.kind = .malformedQuery := by
  rw [build] at h
  split at h
  · next he =>
      obtain rfl := Except.error.inj h
      exact Query.kind_of_parse he
  · cases h

end Resource

/-! ### The string to sign -/

namespace StringToSign

/-- What a line of the string to sign holds. -/
inductive Part
  | verb
  /-- The first value of a header field. -/
  | field (name : FieldName)
  | contentLength
  /-- The resolved date. -/
  | date
  /-- The service's own fields; this part may take several lines, and takes one when there are
  none. -/
  | headerBlock
  | resource

/-- The parts of the string to sign in their order. -/
def layout : Variant → List Part
  | .sharedKey =>
    [.verb, .field .contentEncoding, .field .contentLanguage, .contentLength, .field .contentMd5,
     .field .contentType, .date, .field .ifModifiedSince, .field .ifMatch, .field .ifNoneMatch,
     .field .ifUnmodifiedSince, .field .range, .headerBlock, .resource]
  | .sharedKeyForTable => [.verb, .field .contentMd5, .field .contentType, .date, .resource]
  | .sharedKeyLite =>
    [.verb, .field .contentMd5, .field .contentType, .date, .headerBlock, .resource]
  | .sharedKeyLiteForTable => [.date, .resource]

/-- The date line.  The service's own date replaces the common one: the table variants sign it in
this line, the others sign it among the service's own fields and leave this line empty. -/
def resolveDate (date : Text) (serviceDate : Option Text) (variant : Variant) : Text :=
  match serviceDate with
  | none => date
  | some own => if variant.isTable then own else []

/-- The content length line; the length zero is left empty. -/
def shownLength (length : Text) : Text := if length = ['0'] then [] else length

/-- The block of the service's own fields, which the table variants do not sign. -/
def headerBlock (headers : HeaderMap) (variant : Variant) : Except Error Text :=
  if variant.isTable then .ok [] else HeaderBlock.ofHeaders headers

/-- The lines that are computed before the layout is filled in. -/
structure Computed where
  verb : Text
  contentLength : Text
  date : Text
  headerBlock : Text
  resource : Text

/-- The text of a part. -/
def Part.text (headers : HeaderMap) (computed : Computed) : Part → Except Error Text
  | .verb => .ok computed.verb
  | .field name => headers.lookupOrEmpty name.text
  | .contentLength => .ok computed.contentLength
  | .date => .ok computed.date
  | .headerBlock => .ok computed.headerBlock
  | .resource => .ok computed.resource

/-- The lines that are computed before the layout is filled in. -/
def compute (verb : Text) (headers : HeaderMap) (resource : Text) (variant : Variant) :
    Except Error Computed := do
  let length ← headers.lookupOrEmpty FieldName.contentLength.text
  let date ← headers.lookupOrEmpty FieldName.date.text
  let serviceDate ← headers.lookup FieldName.xMsDate.text
  let block ← headerBlock headers variant
  return ⟨verb, shownLength length, resolveDate date serviceDate variant, block, resource⟩

/-- The parts of the string to sign as texts. -/
def parts (verb : Text) (headers : HeaderMap) (resource : Text) (variant : Variant) :
    Except Error (List Text) := do
  let computed ← compute verb headers resource variant
  (layout variant).mapM (Part.text headers computed)

/-- The string to sign of a request. -/
def build (verb : Text) (headers : HeaderMap) (resource : Text) (variant : Variant) :
    Except Error Text :=
  (parts verb headers resource variant).map (Text.join ['\n'])

end StringToSign

/-! ### The authorization -/

namespace Authorization

/-- The code of a message under a key, written in base64. -/
def signature (key message : Bytes) : Text := Base64.encode (Hmac.sha256 key message)

/-- The text that is sent: the label of the scheme, the account, and the signature. -/
def headerText (stringToSign : Text) (credential : Credential) (variant : Variant) : Text :=
  variant.scheme ++ ' ' :: credential.canonicalAccount
    ++ ':' :: signature credential.key (Text.utf8 stringToSign)

/-- The authorization of a request whose resource has been built, or has failed to be. -/
def ofResource (verb : Text) (headers : HeaderMap) (resource : Except Error Text)
    (variant : Variant) (credential : Credential) : Logged (Except Error Text) :=
  (Logged.recording .resource resource).andThen fun resource =>
    (Logged.recording .stringToSign
      (StringToSign.build verb headers resource variant)).andThen fun stringToSign =>
        Logged.silent (.ok (headerText stringToSign credential variant))

/-- The authorization of a request whose url is given as text. -/
def ofUrl (verb url : Text) (headers : HeaderMap) (variant : Variant) (credential : Credential) :
    Logged (Except Error Text) :=
  ofResource verb headers (Resource.ofUrl url credential.account variant) variant credential

/-- The authorization of a request whose target has been read. -/
def ofTarget (verb : Text) (target : Target) (headers : HeaderMap) (variant : Variant)
    (credential : Credential) : Logged (Except Error Text) :=
  ofResource verb headers (Resource.ofTarget target credential.account variant) variant credential

/-- An authorization as the value of a header field, kept out of logs.  An account name with control
characters gives none. -/
def headerValue (text : Text) : Except Error FieldValue :=
  match FieldValue.ofBytes? (Text.utf8 text) with
  | some v => .ok v.markSensitive
  | none => .error .invalidAuthorization

/-- The header map with an authorization in place of any it had, or the error and the header map as
it was. -/
def put (headers : HeaderMap) (text : Except Error Text) : Except Error Unit × HeaderMap :=
  match text.bind headerValue with
  | .ok v => (.ok (), headers.insert .authorization v)
  | .error e => (.error e, headers)

/-- A header map with the authorization of a request put in; on failure it is left as it was. -/
def addToHeaders (verb url : Text) (headers : HeaderMap) (variant : Variant)
    (credential : Credential) : Logged (Except Error Unit × HeaderMap) :=
  (ofUrl verb url headers variant credential).map (put headers)

end Authorization

end SharedKey
