/-
**Request targets, and how they are read.**

A target has one of four forms: a path with a query, a whole url, an authority alone, and the
asterisk.  A fragment never belongs to it.  A whole url keeps an empty path as it is written; two
views of the path differ on it.  `Target.literalPath` is what stands in the text, and
`Target.requestPath` is what is sent in a request line, where a missing path is the root unless a
query follows.

A text that begins with a slash is a path with a query.  Otherwise a scheme may come first, then an
authority, which ends at the first slash, question mark or number sign; a path and a query may
follow only where there is a scheme.  From a number sign on nothing is read.  An authority is read
character by character.  Colons are counted, brackets may open and close once, and percent signs may
stand before an at sign or inside brackets only.  An at sign and a closing bracket end a part, after
which counting starts anew.

Main definitions:

* `Target.ParseError` — the ways in which reading a request target fails;
* `Target.ParseError.message` — their wording;
* `Target` — the four forms;
* `Target.literalPath`, `Target.requestPath`, `Target.queryText` — path and query;
* `Target.authority?` — the authority, where the target names one;
* `Target.root` — the path `/` alone;
* `Target.display` — the text of a target;
* `Target.isAuthorityChar` — the characters of an authority;
* `Target.AuthorityScan` — what has been seen;
* `Target.AuthorityScan.step`, `Target.AuthorityScan.finish` — one character more, and the end;
* `Target.checkAuthority` — the failure of the first character or of the whole;
* `Target.isPathChar`, `Target.isQueryChar` — the characters of paths and queries;
* `Target.parsePathQuery` — a path and a query up to a number sign;
* `Target.splitScheme` — the scheme in front of an authority;
* `Target.parse` — the target of a text.

Main results:

* `Target.requestPath_eq` — the two views of the path differ on urls without path and query only.
-/

import SharedKey.Text

set_option relaxedAutoImplicit false
set_option autoImplicit false

namespace SharedKey

/-! ### Failures -/

/-- The ways in which reading a request target fails. -/
inductive Target.ParseError
  /-- The text takes more bytes than a target may. -/
  | tooLong
  /-- Nothing is left where an authority should stand. -/
  | empty
  /-- A character that may not stand at its place. -/
  | invalidCharacter
  /-- Brackets, colons, at signs or percent signs that make up no authority. -/
  | invalidAuthority
  /-- Parts that may not stand together. -/
  | invalidFormat
  /-- A scheme that is longer than a scheme may be. -/
  | schemeTooLong
  deriving DecidableEq

/-- The wording of a failure. -/
def Target.ParseError.message : Target.ParseError → Text
  | .tooLong => "uri too long".toList
  | .empty => "empty string".toList
  | .invalidCharacter => "invalid uri character".toList
  | .invalidAuthority => "invalid authority".toList
  | .invalidFormat => "invalid format".toList
  | .schemeTooLong => "scheme too long".toList

/-! ### The four forms -/

/-- What a request is directed to. -/
inductive Target
  /-- A path, with a query when there is one. -/
  | originForm (path : Text) (query : Option Text)
  /-- A url with a scheme; nothing need follow its authority. -/
  | absoluteForm (scheme authority path : Text) (query : Option Text)
  /-- An authority alone. -/
  | authorityForm (authority : Text)
  /-- The asterisk, for the server as a whole. -/
  | asteriskForm
  deriving DecidableEq

namespace Target

/-- The target of a request for which none is named. -/
def root : Target := .originForm ['/'] none

/-- The authority, where the target names one. -/
def authority? : Target → Option Text
  | .absoluteForm _ authority _ _ => some authority
  | .authorityForm authority => some authority
  | .originForm .. | .asteriskForm => none

/-- The path as it stands in the text of the target. -/
def literalPath : Target → Text
  | .originForm path _ => path
  | .absoluteForm _ _ path _ => path
  | .authorityForm _ => []
  | .asteriskForm => ['*']

/-- The query, which is empty when there is none. -/
def queryText : Target → Text
  | .originForm _ query => query.getD []
  | .absoluteForm _ _ _ query => query.getD []
  | .authorityForm _ => []
  | .asteriskForm => []

/-- The path as it is sent in a request line: a missing one is the root, unless a query follows. -/
def requestPath : Target → Text
  | .absoluteForm _ _ [] none => ['/']
  | target => target.literalPath

/-- A query with its question mark. -/
def displayQuery : Option Text → Text
  | some query => '?' :: query
  | none => []

/-- The text of a target; a missing path after an authority with a scheme is shown as the root. -/
def display : Target → Text
  | .originForm path query => path ++ displayQuery query
  | .absoluteForm scheme authority path query =>
    scheme ++ "://".toList ++ authority ++ (if path.isEmpty then ['/'] else path)
      ++ displayQuery query
  | .authorityForm authority => authority
  | .asteriskForm => ['*']

/-- The two views of the path differ on urls without path and query only. -/
theorem requestPath_eq (target : Target) :
    target.requestPath = target.literalPath
      ∨ ∃ scheme authority, target = .absoluteForm scheme authority [] none := by
  unfold requestPath
  split
  · exact .inr ⟨_, _, rfl⟩
  · exact .inl rfl

/-! ### Authorities -/

/-- The signs of an authority beside letters and digits. -/
def authoritySigns : List Char :=
  ['!', '$', '%', '&', '\'', '(', ')', '*', '+', ',', '-', '.', ':', ';', '=', '@', '[', ']', '_',
   '~']

/-- A character that may stand in an authority. -/
def isAuthorityChar (c : Char) : Bool := c.isAlphanum || authoritySigns.contains c

/-- What reading an authority has seen. -/
structure AuthorityScan where
  /-- The colons since the last at sign or closing bracket. -/
  colons : Nat
  /-- Whether a bracket has been opened. -/
  opened : Bool
  /-- Whether a bracket has been closed. -/
  closed : Bool
  /-- Whether a percent sign has been seen since the last at sign or closing bracket. -/
  percent : Bool
  /-- Whether the last character is an at sign. -/
  atLast : Bool
  deriving DecidableEq

namespace AuthorityScan

/-- Nothing has been seen. -/
def start : AuthorityScan := ⟨0, false, false, false, false⟩

/-- The greatest number of colons in one part. -/
def maxColons : Nat := 8

/-- One character more. -/
def step (s : AuthorityScan) (c : Char) : Except ParseError AuthorityScan :=
  if c = ':' then
    if maxColons ≤ s.colons then .error .invalidAuthority
    else .ok ⟨s.colons + 1, s.opened, s.closed, s.percent, false⟩
  else if c = '[' then
    if s.percent || s.opened then .error .invalidAuthority
    else .ok ⟨s.colons, true, s.closed, s.percent, false⟩
  else if c = ']' then
    if !s.opened || s.closed then .error .invalidAuthority
    else .ok ⟨0, s.opened, true, false, false⟩
  else if c = '@' then .ok ⟨0, s.opened, s.closed, false, true⟩
  else if c = '%' then .ok ⟨s.colons, s.opened, s.closed, true, false⟩
  else if isAuthorityChar c then .ok ⟨s.colons, s.opened, s.closed, s.percent, false⟩
  else .error .invalidCharacter

/-- The end of the authority. -/
def finish (s : AuthorityScan) : Except ParseError Unit :=
  if s.opened ≠ s.closed || 1 < s.colons || s.atLast || s.percent then .error .invalidAuthority
  else .ok ()

/-- The characters of an authority one after the other, and its end. -/
def run (s : AuthorityScan) : Text → Except ParseError Unit
  | [] => s.finish
  | c :: t =>
    match s.step c with
    | .error e => .error e
    | .ok s' => s'.run t

end AuthorityScan

/-- The failure of the first character that may not stand at its place, or of the whole. -/
def checkAuthority (t : Text) : Except ParseError Unit := AuthorityScan.start.run t

/-! ### Limits -/

/-- The greatest number of bytes of a target. -/
def maxBytes : Nat := 65534

/-- The greatest number of characters of a scheme. -/
def maxScheme : Nat := 64

/-! ### Path and query -/

/-- A character that may stand in a path.  The delete character, `0x7F`, may not, though every
character beyond ASCII may. -/
def isPathChar (c : Char) : Bool :=
  let n := c.toNat
  n = 0x21 || n = 0x22 || (0x24 ≤ n && n ≤ 0x3B) || n = 0x3D || (0x40 ≤ n && n ≤ 0x5F)
    || (0x61 ≤ n && n ≤ 0x7E) || 0x80 ≤ n

/-- A character that may stand in a query; as in a path, the delete character may not. -/
def isQueryChar (c : Char) : Bool :=
  let n := c.toNat
  n = 0x21 || (0x24 ≤ n && n ≤ 0x3B) || n = 0x3D || (0x3F ≤ n && n ≤ 0x7E) || 0x80 ≤ n

/-- A text without its fragment, the part from the first number sign on. -/
def dropFragment (t : Text) : Text := t.takeWhile (· ≠ '#')

/-- A path and a query, with a fragment that is left out unread. -/
def parsePathQuery (t : Text) : Except ParseError (Text × Option Text) :=
  let (path, query) := Text.cut '?' (dropFragment t)
  if path.all isPathChar && (query.getD []).all isQueryChar then .ok (path, query)
  else .error .invalidCharacter

/-! ### Scheme and authority -/

/-- A character that may stand in a scheme. -/
def isSchemeChar (c : Char) : Bool := c.isAlphanum || ['+', '-', '.', '~'].contains c

/-- What separates a scheme from an authority. -/
def schemeMark : Text := "://".toList

/-- The schemes that are recognised in any letter case and kept in lowercase. -/
def commonSchemes : List Text := ["http".toList, "https".toList]

/-- A scheme is kept as it is written, unless it is one of the common ones. -/
def keptScheme (scheme : Text) : Text :=
  let lower := scheme.map Char.toLower
  if commonSchemes.contains lower then lower else scheme

/-- The scheme in front of an authority, and the text after it.  The mark on its own is no scheme,
though an empty scheme is one where something follows it. -/
def splitScheme (t : Text) : Except ParseError (Option Text × Text) :=
  let scheme := t.takeWhile isSchemeChar
  let rest := t.dropWhile isSchemeChar
  if schemeMark.isPrefixOf rest ∧ schemeMark.length < t.length then
    if maxScheme < scheme.length then .error .schemeTooLong
    else .ok (some (keptScheme scheme), rest.drop schemeMark.length)
  else .ok (none, t)

/-- A character that ends an authority. -/
def endsAuthority (c : Char) : Bool := c = '/' || c = '?' || c = '#'

/-- The target of a text that does not begin with a slash. -/
def parseWithAuthority (t : Text) : Except ParseError Target :=
  match splitScheme t with
  | .error e => .error e
  | .ok (scheme, afterScheme) =>
    let authority := afterScheme.takeWhile (!endsAuthority ·)
    let rest := afterScheme.dropWhile (!endsAuthority ·)
    if afterScheme.isEmpty then .error .empty
    else
      match checkAuthority authority, scheme with
      | .error e, _ => .error e
      | .ok (), none =>
        if rest.isEmpty then .ok (.authorityForm authority) else .error .invalidFormat
      | .ok (), some scheme =>
        if authority.isEmpty then .error .invalidFormat
        else
          (parsePathQuery rest).map fun (path, query) => .absoluteForm scheme authority path query

/-! ### The whole target -/

/-- The target of a text. -/
def parse (t : Text) : Except ParseError Target :=
  if maxBytes < Text.byteLength t then .error .tooLong
  else
    match t with
    | [] => .error .empty
    | ['*'] => .ok .asteriskForm
    -- A single character is an authority, and these two stand in none.
    | ['?'] => .error .invalidCharacter
    | ['#'] => .error .invalidCharacter
    | '/' :: _ => (parsePathQuery t).map fun (path, query) => .originForm path query
    | _ => parseWithAuthority t

/-- The asterisk alone is the asterisk. -/
theorem parse_asterisk : parse ['*'] = .ok .asteriskForm := by rfl

end Target

end SharedKey
