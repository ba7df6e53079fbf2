/-
**Errors of signing, and how they are reported.**

An `Error` names the one thing that went wrong and carries what its message quotes.  The kind and
the wording are functions of the cause, so two errors of one cause always read the same.

A report is what a caller is told: the kind of the error, a message, and the texts of the failures
underneath, the outermost first.

Main definitions:

* `ErrorKind` — the coarse classification a caller acts on;
* `Error` — the causes;
* `Error.kind`, `Error.message` — classification and wording of a cause;
* `ErrorKind.isInputError` — whether the request is to blame rather than the configuration;
* `Report` — kind, message and sources;
* `Report.withSource` — the same report with one failure underneath;
* `Report.ofFailure` — a report of a failure of another library, with the context it was put into;
* `Error.report` — the report of a cause;
* `Report.display` — the text of a report.
-/

import SharedKey.Quoted
import SharedKey.Target

set_option relaxedAutoImplicit false
set_option autoImplicit false

namespace SharedKey

/-! ### Causes -/

/-- What a caller can do about an error. -/
inductive ErrorKind
  | malformedUrl
  | malformedQuery
  /-- No variant of the scheme has this tag. -/
  | unsupportedAuthVariant
  /-- The request can not be signed. -/
  | requestInvalid
  /-- There is a credential, and it can not be used for signing. -/
  | credentialInvalid
  | configInvalid
  | unexpected
  deriving DecidableEq

/-- The words that introduce a message of this kind. -/
def ErrorKind.label : ErrorKind → Text
  | .malformedUrl => "malformed url".toList
  | .malformedQuery => "malformed query".toList
  | .unsupportedAuthVariant => "unsupported auth variant".toList
  | .requestInvalid => "invalid request".toList
  | .credentialInvalid => "invalid credentials".toList
  | .configInvalid => "invalid configuration".toList
  | .unexpected => "unexpected error".toList

/-- Whether errors of this kind come from the request that was to be signed. -/
def ErrorKind.isInputError : ErrorKind → Bool
  | .malformedUrl | .malformedQuery | .requestInvalid => true
  | .unsupportedAuthVariant | .credentialInvalid | .configInvalid | .unexpected => false

/-- The causes for which signing, or preparing to sign, fails. -/
inductive Error
  /-- A url given as text is no request target. -/
  | unreadableUrl (url : Text) (reason : Target.ParseError)
  /-- A request target on its own can not be read. -/
  | invalidTarget (reason : Target.ParseError)
  /-- A query separates its parameters by semicolons. -/
  | semicolonInQuery (query : Text)
  /-- A percent sign in a query is not followed by two hexadecimal digits. -/
  | brokenEscape (escape query : Text)
  /-- A name or value of a query does not decode to text. -/
  | componentNotUtf8 (component : Text)
  /-- A text is neither the tag nor the name of a variant. -/
  | unsupportedVariant (tag : Text)
  /-- A text is no request method. -/
  | invalidMethod
  /-- A text is no name of a header field. -/
  | invalidFieldName
  /-- Bytes are no value of a header field. -/
  | invalidFieldValue
  /-- The value of a header field has bytes that are no printable ASCII. -/
  | opaqueFieldValue
  /-- A computed authorization is no value of a header field. -/
  | invalidAuthorization
  /-- A request was to be signed without a credential. -/
  | credentialRequired
  /-- The credential lacks an account name or a key. -/
  | credentialUnusable
  /-- A text is not base64. -/
  | notBase64
  /-- The key of an account is not base64. -/
  | accountKeyNotBase64 (account : Text)
  /-- The configuration names no account. -/
  | accountNameMissing
  /-- The configuration holds no key for its account. -/
  | accountKeyMissing (account : Text)
  deriving DecidableEq

/-- The kind of a cause. -/
def Error.kind : Error → ErrorKind
  | .unreadableUrl .. | .invalidTarget _ => .malformedUrl
  | .semicolonInQuery _ | .brokenEscape .. | .componentNotUtf8 _ => .malformedQuery
  | .unsupportedVariant _ => .unsupportedAuthVariant
  | .invalidMethod | .invalidFieldName | .invalidFieldValue | .opaqueFieldValue
  | .invalidAuthorization | .credentialRequired => .requestInvalid
  | .credentialUnusable => .credentialInvalid
  | .notBase64 | .accountKeyNotBase64 _ | .accountNameMissing | .accountKeyMissing _ =>
    .configInvalid

/-- The wording of a cause. -/
def Error.message : Error → Text
  | .unreadableUrl url _ => "failed to parse request url ".toList ++ url
  | .invalidTarget reason => reason.message
  | .semicolonInQuery query => "invalid semicolon separator in query ".toList ++ query
  | .brokenEscape escape query =>
    "invalid percent escape ".toList ++ Text.quoted escape ++ " in query ".toList ++ query
  | .componentNotUtf8 component =>
    "query component ".toList ++ component ++ " is not valid utf-8".toList
  | .unsupportedVariant tag => tag ++ " authentication is not supported".toList
  | .invalidMethod => "invalid HTTP method".toList
  | .invalidFieldName => "invalid HTTP header name".toList
  | .invalidFieldValue => "failed to parse header value".toList
  | .opaqueFieldValue => "failed to convert header to a str".toList
  | .invalidAuthorization => "failed to parse authorization header".toList
  | .credentialRequired => "credential is required".toList
  | .credentialUnusable => "credential is not valid for signing".toList
  | .notBase64 => "base64 decode failed".toList
  | .accountKeyNotBase64 account =>
    "account key of ".toList ++ account ++ " is not valid base64".toList
  | .accountNameMissing => "account name is missing".toList
  | .accountKeyMissing account => "account key of ".toList ++ account ++ " is missing".toList

/-! ### Reports -/

/-- What a caller is told of an error. -/
structure Report where
  /-- The kind of the error. -/
  kind : ErrorKind
  /-- What has gone wrong. -/
  message : Text
  /-- The texts of the failures underneath, the outermost first. -/
  sources : List Text
  deriving DecidableEq

namespace Report

/-- A report of a kind with nothing underneath. -/
def ofMessage (kind : ErrorKind) (message : Text) : Report := ⟨kind, message, []⟩

/-- The report that a tag names no variant. -/
def ofUnsupportedVariant (tag : Text) : Report :=
  ofMessage .unsupportedAuthVariant (Error.unsupportedVariant tag).message

/-- The same report with this failure underneath, in place of those that it had. -/
def withSource (report : Report) (source : Text) : Report := { report with sources := [source] }

/-- The report of an unexpected failure.  Its message is the outermost text: the context that the
failure was put into, and the failure itself where there is none. -/
def ofFailure (failure : Text) (context : Option Text) : Report :=
  match context with
  | some text => ⟨.unexpected, text, [text, failure]⟩
  | none => ⟨.unexpected, failure, [failure]⟩

/-- The text of a report. -/
def display (report : Report) : Text := report.kind.label ++ ": ".toList ++ report.message

end Report

/-- The texts of the failures underneath a cause: that of the reading that failed, where the cause
is one. -/
def Error.sources : Error → List Text
  | .unreadableUrl _ reason => [reason.message]
  | .invalidTarget reason => [reason.message]
  | .invalidMethod => [Error.invalidMethod.message]
  | .invalidFieldName => [Error.invalidFieldName.message]
  | .invalidFieldValue => [Error.invalidFieldValue.message]
  | .opaqueFieldValue => [Error.opaqueFieldValue.message]
  | _ => []

/-- The report of a cause. -/
def Error.report (e : Error) : Report := ⟨e.kind, e.message, e.sources⟩

end SharedKey
