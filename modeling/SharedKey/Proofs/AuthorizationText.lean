/-
**The text of an authorization: what the key decides of it, and how it is read back.**

Two persons with different keys for one account who ask for the same request see the same records in
the log, and the same failure or two texts that differ after their last colon only.  What stands
there is a signature: forty-four characters without a colon, which are computed from the key and the
logged string to sign.  So neither the log nor an error nor the length of the answer tells anything
of the key.

The account name stands between a space and a colon and may hold both.  It can be told from what is
around it all the same: no label of a scheme holds a space, so the first space ends the label, and
no signature holds a colon, so the last colon ends the name.  A signature is base64 text that is
read back as the thirty-two bytes of the code.  So an authorization tells its scheme, its account
and its code, and it tells nothing else.

Main definitions:

* `Authorization.EndsInSignature` — a text that is cut at its last colon;
* `Authorization.AlikeUnderKeys` — what comes of one request under two keys;
* `Text.cutLast` — what stands before the last separator, and what stands after it;
* `Authorization.Parts`, `Authorization.split?` — the parts of an authorization, and the parts that
  a text is split into.

Main results:

* `StringToSign.exists_append_resource` — a string to sign ends in the resource, on lines of its
  own;
* `Authorization.endsInSignature_headerText` — what follows the last colon of an authorization is
  its signature;
* `Authorization.ofUrl_under_keys` — **under two keys a request leaves the same records, and answers
  that differ in their signatures only**;
* `Text.cutLast_append_sep` — the last line is told from what stands before its separator;
* `Authorization.split?_headerText` — an authorization is split into what it has been put together
  from;
* `Authorization.headerText_eq_iff` — what two authorizations have in common when they are equal;
* `Authorization.headerText_decodable` — **scheme, account and code are read back from an
  authorization, and two authorizations are equal exactly when these are**.
-/

import SharedKey.Proofs.AccountKey

set_option relaxedAutoImplicit false
set_option autoImplicit false

namespace SharedKey

/-- A string to sign ends in the resource, on lines of its own. -/
theorem StringToSign.exists_append_resource {verb resource text : Text} {headers : HeaderMap}
    {variant : Variant} (h : build verb headers resource variant = .ok text) :
    ∃ before, text = before ++ '\n' :: resource := by
  have hne : bodyLines variant verb headers ≠ [] :=
    List.append_ne_nil_of_left_ne_nil (fieldLines_ne_nil variant verb headers) _
  obtain rfl := (reading_build verb headers resource variant).eq_of_ok h
  refine ⟨Text.join ['\n'] (bodyLines variant verb headers), ?_⟩
  rw [Text.join_append _ hne (List.cons_ne_nil resource []), List.append_assoc]
  simp [Text.join]

namespace Authorization

/-! ### Signatures -/

/-- Thirty-two bytes are written as forty-four digits. -/
theorem length_signature (key message : Bytes) : (signature key message).length = 44 := by
  rw [signature, Base64.length_encode, Hmac.length_sha256]

theorem colon_notMem_signature (key message : Bytes) : ':' ∉ signature key message := by
  intro hmem
  exact absurd (Base64.mem_of_mem_encode hmem) (by decide)

/-- A text that is cut at its last colon into what stands up to there and a signature. -/
structure EndsInSignature (text front signature : Text) : Prop where
  text_eq : text = front ++ ':' :: signature
  colon_notMem : ':' ∉ signature
  length_eq : signature.length = 44

/-- What follows the last colon of an authorization is its signature. -/
theorem endsInSignature_headerText (stringToSign account : Text) (key : Bytes) (variant : Variant) :
    EndsInSignature (headerText stringToSign ⟨account, key⟩ variant)
      (variant.scheme ++ ' ' :: Credential.canonicalName account)
      (signature key (Text.utf8 stringToSign)) where
  text_eq := rfl
  colon_notMem := colon_notMem_signature _ _
  length_eq := length_signature _ _

/-! ### Two keys -/

/-- What comes of one request under two keys: its resource fails, its string to sign fails, or it is
signed.  The records tell how far it came. -/
inductive AlikeUnderKeys (verb : Text) (headers : HeaderMap) (variant : Variant)
    (key key' : Bytes) :
    Except Error Text → Logged (Except Error Text) → Logged (Except Error Text) → Prop
  | noResource {e : Error} :
      AlikeUnderKeys verb headers variant key key' (.error e) ⟨[], .error e⟩ ⟨[], .error e⟩
  | noStringToSign {resource : Text} {e : Error} :
      StringToSign.build verb headers resource variant = .error e →
      AlikeUnderKeys verb headers variant key key' (.ok resource)
        ⟨[.resource resource], .error e⟩ ⟨[.resource resource], .error e⟩
  | signed {resource stringToSign before front text text' : Text} :
      StringToSign.build verb headers resource variant = .ok stringToSign →
      stringToSign = before ++ '\n' :: resource →
      EndsInSignature text front (signature key (Text.utf8 stringToSign)) →
      EndsInSignature text' front (signature key' (Text.utf8 stringToSign)) →
      AlikeUnderKeys verb headers variant key key' (.ok resource)
        ⟨[.resource resource, .stringToSign stringToSign], .ok text⟩
        ⟨[.resource resource, .stringToSign stringToSign], .ok text'⟩

variable {verb : Text} {headers : HeaderMap} {variant : Variant} {key key' : Bytes}

theorem AlikeUnderKeys.records_eq {resource : Except Error Text}
    {x x' : Logged (Except Error Text)}
    (h : AlikeUnderKeys verb headers variant key key' resource x x') : x.records = x'.records := by
  cases h with
  | noResource => rfl
  | noStringToSign _ => rfl
  | signed _ _ _ _ => rfl

/-- Once the resource is built or has failed, the key is looked at in the last step only. -/
theorem alikeUnderKeys_ofResource (resource : Except Error Text) (account : Text) :
    AlikeUnderKeys verb headers variant key key' resource
      (ofResource verb headers resource variant ⟨account, key⟩)
      (ofResource verb headers resource variant ⟨account, key'⟩) := by
  cases resource with
  | error e => exact .noResource
  | ok r =>
      cases hbuild : StringToSign.build verb headers r variant with
      | error e =>
          rw [ofResource_of_build_error hbuild, ofResource_of_build_error hbuild]
          exact .noStringToSign hbuild
      | ok s =>
          rw [ofResource_of_build hbuild, ofResource_of_build hbuild]
          obtain ⟨before, hbefore⟩ := StringToSign.exists_append_resource hbuild
          exact .signed hbuild hbefore (endsInSignature_headerText s account key variant)
            (endsInSignature_headerText s account key' variant)

/-- **Under two keys a request leaves the same records, and answers that differ in their signatures
only.** -/
theorem ofUrl_under_keys (verb url : Text) (headers : HeaderMap) (variant : Variant)
    (account : Text) (key key' : Bytes) :
    (ofUrl verb url headers variant ⟨account, key⟩).records
        = (ofUrl verb url headers variant ⟨account, key'⟩).records
      ∧ AlikeUnderKeys verb headers variant key key' (Resource.ofUrl url account variant)
        (ofUrl verb url headers variant ⟨account, key⟩)
        (ofUrl verb url headers variant ⟨account, key'⟩) := by
  have halike : AlikeUnderKeys verb headers variant key key' (Resource.ofUrl url account variant)
      (ofUrl verb url headers variant ⟨account, key⟩)
      (ofUrl verb url headers variant ⟨account, key'⟩) :=
    alikeUnderKeys_ofResource (Resource.ofUrl url account variant) account
  exact ⟨halike.records_eq, halike⟩

end Authorization

/-! ### The last separator -/

/-- What stands before the last `sep`, when there is one, and what stands after it. -/
def Text.cutLast (sep : Char) (t : Text) : Option Text × Text :=
  ((Text.cut sep t.reverse).2.map List.reverse, (Text.cut sep t.reverse).1.reverse)

/-- The last line is told from what stands before its separator. -/
theorem Text.cutLast_append_sep {sep : Char} {line : Text} (h : sep ∉ line) (before : Text) :
    cutLast sep (before ++ sep :: line) = (some before, line) := by
  have hline : sep ∉ line.reverse := fun hmem => h (List.mem_reverse.1 hmem)
  have hreverse : (before ++ sep :: line).reverse = line.reverse ++ sep :: before.reverse := by
    simp
  rw [cutLast, hreverse, cut_append_sep hline, Option.map_some, List.reverse_reverse,
    List.reverse_reverse]

namespace Authorization

/-! ### The parts of an authorization -/

/-- The parts of an authorization. -/
structure Parts where
  /-- The label of the scheme. -/
  scheme : Text
  /-- The name of the account. -/
  account : Text
  signature : Text
  deriving DecidableEq

/-- The parts that a text is split into: what stands before its first space, what stands between
that and the last colon, and what stands after the last colon. -/
def split? (text : Text) : Option Parts :=
  match Text.cut ' ' text with
  | (_, none) => none
  | (scheme, some rest) =>
    match Text.cutLast ':' rest with
    | (none, _) => none
    | (some account, signature) => some ⟨scheme, account, signature⟩

theorem space_notMem_scheme (variant : Variant) : ' ' ∉ variant.scheme := by
  cases variant <;> decide

/-- An authorization is split into what it has been put together from. -/
theorem split?_headerText (stringToSign : Text) (credential : Credential) (variant : Variant) :
    split? (headerText stringToSign credential variant)
      = some ⟨variant.scheme, credential.canonicalAccount,
          signature credential.key (Text.utf8 stringToSign)⟩ := by
  have hparts : headerText stringToSign credential variant
      = variant.scheme ++ ' ' :: (credential.canonicalAccount
        ++ ':' :: signature credential.key (Text.utf8 stringToSign)) := by
    simp [headerText]
  rw [split?, hparts, Text.cut_append_sep (space_notMem_scheme variant)]
  simp only [Text.cutLast_append_sep (colon_notMem_signature _ _)]

/-- An account name may hold a space, a colon and even a label of a scheme. -/
example : split? "SharedKey SharedKey a:b c:AQI=".toList
    = some ⟨"SharedKey".toList, "SharedKey a:b c".toList, "AQI=".toList⟩ := by decide

/-- A signature is read back as the code that it has been written from. -/
theorem read_signature (key message : Bytes) :
    Base64.read (signature key message) = .ok (Hmac.sha256 key message) :=
  Base64.read_encode (Hmac.sha256 key message)

/-- Two authorizations are equal exactly when scheme, account and code are. -/
theorem headerText_eq_iff {stringToSign stringToSign' : Text} {credential credential' : Credential}
    {variant variant' : Variant} :
    headerText stringToSign credential variant = headerText stringToSign' credential' variant'
      ↔ variant.scheme = variant'.scheme
        ∧ credential.canonicalAccount = credential'.canonicalAccount
        ∧ Hmac.sha256 credential.key (Text.utf8 stringToSign)
          = Hmac.sha256 credential'.key (Text.utf8 stringToSign') := by
  constructor
  · intro h
    have hsplit := congrArg split? h
    rw [split?_headerText, split?_headerText, Option.some.injEq, Parts.mk.injEq] at hsplit
    obtain ⟨hscheme, haccount, hsignature⟩ := hsplit
    exact ⟨hscheme, haccount, Base64.encode_injective hsignature⟩
  · rintro ⟨hscheme, haccount, hcode⟩
    rw [headerText, headerText, signature, signature, hscheme, haccount, hcode]

/-- **Scheme, account and code are read back from an authorization, and two authorizations are equal
exactly when these are**, whatever characters the account name holds. -/
theorem headerText_decodable (stringToSign : Text) (credential : Credential) (variant : Variant) :
    (∃ written,
      split? (headerText stringToSign credential variant)
        = some ⟨variant.scheme, credential.canonicalAccount, written⟩
      ∧ written.length = 44
      ∧ Base64.read written = .ok (Hmac.sha256 credential.key (Text.utf8 stringToSign))
      ∧ (Hmac.sha256 credential.key (Text.utf8 stringToSign)).length = 32)
    ∧ ∀ (stringToSign' : Text) (credential' : Credential) (variant' : Variant),
      headerText stringToSign credential variant = headerText stringToSign' credential' variant'
        ↔ variant.scheme = variant'.scheme
          ∧ credential.canonicalAccount = credential'.canonicalAccount
          ∧ Hmac.sha256 credential.key (Text.utf8 stringToSign)
            = Hmac.sha256 credential'.key (Text.utf8 stringToSign') := by
  have hsplit := split?_headerText stringToSign credential variant
  have hread := read_signature credential.key (Text.utf8 stringToSign)
  exact ⟨⟨_, hsplit, length_signature _ _, hread, Hmac.length_sha256 _ _⟩,
    fun _ _ _ => headerText_eq_iff⟩

end Authorization

end SharedKey
