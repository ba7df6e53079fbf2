/-
**For which account name a request is signed.**

A signer refuses a credential without an account name.  It asks for the name as it is configured,
while a request is signed for the name without the suffix of the secondary endpoint; so a name that
consists of the suffix alone is accepted, and what it signs, it signs for no account.  Nothing else
goes wrong: with every other name that a signer accepts, the authorization and the resource name an
account.

The suffix is taken away in two places: where the resource is built, and where the authorization is
put together.  Both take it from the account name as it is configured, and both take it away once.
So an account signs at its secondary endpoint exactly as at its primary one, records and failures
included; and of a name with several suffixes, resource and authorization show the same text, which
is one suffix shorter.  Such a name does not sign as the shorter one.

Main definitions:

* `Request.SignedFor` — a request that has been signed for an account name;
* `Credential.PrimaryName` — an account name, and the name that it signs for;
* `Credential.SignAlike` — two credentials that no signing can tell apart;
* `Authorization.Names` — what has been signed and sent for an account name;
* `Credential.SignsFor` — a credential with which everything is signed for one name.

Main results:

* `Credential.canonicalName_cases`, `Credential.canonicalName_eq_nil_iff` — what is left of an
  account name, and when nothing is;
* `RequestSigner.signedFor_sign`, `Signer.signedFor_sign` — what a signed request shows of its
  account;
* `Signer.signed_nameless_iff` — **a signer signs for no account exactly when its account name is
  the suffix alone**;
* `Signer.sign_nameless` — such a signer;
* `Credential.signAlike_of_canonicalName` — the name without the suffix and the key are all that
  signing looks at;
* `Authorization.names_ofResource` — resource and authorization show one name;
* `Credential.endpoints_sign_alike` — **the two endpoints of an account sign alike, and every
  account name is signed for without one suffix**.
-/

import SharedKey.Proofs.AuthorizationText

set_option relaxedAutoImplicit false
set_option autoImplicit false

namespace SharedKey

/-! ### Account names -/

namespace Credential

/-- One suffix is taken away, where there is one. -/
theorem canonicalName_cases (account : Text) :
    (∃ front, account = front ++ secondarySuffix ∧ canonicalName account = front)
      ∨ (¬ secondarySuffix <:+ account ∧ canonicalName account = account) := by
  by_cases h : secondarySuffix <:+ account
  · obtain ⟨front, rfl⟩ := h
    exact .inl ⟨front, rfl, canonicalName_append_suffix front⟩
  · refine .inr ⟨h, ?_⟩
    rw [canonicalName, if_neg fun hsuffix => h (List.isSuffixOf_iff_suffix.1 hsuffix)]

/-- Nothing is left of the empty name, and of the suffix alone. -/
theorem canonicalName_eq_nil_iff {account : Text} :
    canonicalName account = [] ↔ account = [] ∨ account = secondarySuffix := by
  constructor
  · intro h
    rcases canonicalName_cases account with ⟨front, rfl, hfront⟩ | ⟨-, hself⟩
    · obtain rfl : front = [] := hfront.symm.trans h
      exact .inr rfl
    · exact .inl (hself.symm.trans h)
  · rintro (rfl | rfl)
    · rfl
    · exact canonicalName_append_suffix []

end Credential

/-! ### Signed requests -/

/-- A request that has been signed with a key for an account name.  The name stands between the
first space and the last colon of the authorization, and at the beginning of the resource that the
string to sign ends with. -/
inductive Request.SignedFor (request : Request) (variant : Variant) (key : Bytes) (name : Text) :
    Logged (Except Error Unit × Request) → Prop
  | intro {text resource tail stringToSign before : Text} {after : HeaderMap} :
      Authorization.split? text
        = some ⟨variant.scheme, name, Authorization.signature key (Text.utf8 stringToSign)⟩ →
      stringToSign = before ++ '\n' :: resource →
      resource = '/' :: name ++ (request.target.requestPath ++ tail) →
      request.headers.Authorized text after →
      SignedFor request variant key name
        ⟨[.resource resource, .stringToSign stringToSign],
          .ok (), ⟨request.method, request.target, after⟩⟩

/-- What a signed request shows of its account is the name without the suffix. -/
theorem RequestSigner.signedFor_sign {signer : RequestSigner} {credential : Credential}
    {request : Request} (h : (signer.sign (some credential) request).answer.1 = .ok ()) :
    request.SignedFor signer.variant credential.key credential.canonicalAccount
      (signer.sign (some credential) request) := by
  have hsigns := signer.signsInPlace_sign (some credential) request
  have hrecords : (signer.sign (some credential) request).records
      = (Authorization.ofTarget request.method.text request.target request.headers signer.variant
        credential).records := rfl
  generalize signer.sign (some credential) request = outcome at h hsigns hrecords ⊢
  obtain ⟨records, answer⟩ := outcome
  cases hsigns with
  | failed _ e => cases h
  | signed hcomputes hauthorized =>
      obtain ⟨resource, stringToSign, hresource, hbuild, rfl⟩ := hcomputes
      obtain ⟨parameters, -, hshape⟩ := Resource.build_eq_ok_iff.1 hresource
      obtain ⟨before, hbefore⟩ := StringToSign.exists_append_resource hbuild
      rw [Authorization.ofTarget, hresource, Authorization.ofResource_of_build hbuild] at hrecords
      obtain rfl := hrecords
      have htail : resource = '/' :: credential.canonicalAccount
          ++ (request.target.requestPath ++ Resource.tail parameters signer.variant) := by
        rw [hshape, List.append_assoc]
        rfl
      exact .intro (Authorization.split?_headerText stringToSign credential signer.variant) hbefore
        htail hauthorized

/-- What a signer has signed shows the name without the suffix, and the name itself is not empty. -/
theorem Signer.signedFor_sign {signer : Signer} {request : Request}
    (h : (signer.sign request).answer.1 = .ok ()) :
    signer.credential.account ≠ []
      ∧ request.SignedFor signer.requestSigner.variant signer.credential.key
          signer.credential.canonicalAccount (signer.sign request) := by
  rw [signer.sign_eq request] at h ⊢
  by_cases hunusable : signer.credential.account = [] ∨ signer.credential.key = []
  · rw [if_pos hunusable] at h
    cases h
  · rw [if_neg hunusable] at h ⊢
    exact ⟨fun hnil => hunusable (.inl hnil), RequestSigner.signedFor_sign h⟩

/-- **A signer signs for no account exactly when its account name is the suffix alone.**  Whatever
it signs, authorization and resource show one name, which is that of the account without the
suffix. -/
theorem Signer.signed_nameless_iff {signer : Signer} {request : Request}
    (h : (signer.sign request).answer.1 = .ok ()) :
    request.SignedFor signer.requestSigner.variant signer.credential.key
        signer.credential.canonicalAccount (signer.sign request)
      ∧ (signer.credential.canonicalAccount = []
        ↔ signer.credential.account = Credential.secondarySuffix) := by
  obtain ⟨hname, hsigned⟩ := signedFor_sign h
  refine ⟨hsigned, ?_⟩
  rw [Credential.canonicalAccount, Credential.canonicalName_eq_nil_iff]
  exact or_iff_right hname

/-- A request for the root, without header fields. -/
def Request.forRoot : Request := ⟨.get, .root, .empty⟩

/-- Without header fields there always is a string to sign. -/
theorem StringToSign.exists_build_empty (verb resource : Text) (variant : Variant) :
    ∃ s, build verb .empty resource variant = .ok s :=
  (reading_build verb .empty resource variant).exists_ok_iff.2 fun _ _ =>
    HeaderMap.readable_of_none rfl

/-- It is signed with every credential whose account name can stand in a header field. -/
theorem RequestSigner.sign_forRoot (signer : RequestSigner) {credential : Credential}
    (h : ¬ Text.HasControl credential.canonicalAccount) :
    (signer.sign (some credential) .forRoot).answer.1 = .ok () := by
  have hquery : Query.parse [] = .ok [] := rfl
  have hresource := Resource.build_eq_of_parse hquery ['/'] credential.account signer.variant
  obtain ⟨stringToSign, hbuild⟩ :=
    StringToSign.exists_build_empty Method.get.text _ signer.variant
  rw [sign_some, Logged.answer_map]
  exact Authorization.signHeaders_eq_ok hresource hbuild h

/-- A signer for the secondary endpoint of an account. -/
def Signer.forSecondary : Signer := ⟨⟨"acct-secondary".toList, [1]⟩, .default⟩

/-- It signs for the account. -/
theorem Signer.signed_nameless_iff_forSecondary :
    (forSecondary.sign .forRoot).answer.1 = .ok ()
      ∧ Request.forRoot.SignedFor .sharedKey [1] "acct".toList (forSecondary.sign .forRoot) := by
  have hsign : (forSecondary.sign .forRoot).answer.1 = .ok () := by
    rw [sign_eq, if_neg (by decide)]
    exact RequestSigner.sign_forRoot _ (Text.not_hasControl_iff.2 (by decide))
  exact ⟨hsign, (signed_nameless_iff hsign).1⟩

/-- A signer whose account name is the suffix alone. -/
def Signer.nameless : Signer := ⟨⟨Credential.secondarySuffix, [1]⟩, .default⟩

/-- Its credential is valid, and it signs for no account. -/
theorem Signer.sign_nameless :
    nameless.credential.isValid = true
      ∧ (nameless.sign .forRoot).answer.1 = .ok ()
      ∧ Request.forRoot.SignedFor .sharedKey [1] [] (nameless.sign .forRoot) := by
  have hsign : (nameless.sign .forRoot).answer.1 = .ok () := by
    rw [sign_eq, if_neg (by decide)]
    exact RequestSigner.sign_forRoot _ (Text.not_hasControl_iff.2 (by decide))
  exact ⟨rfl, hsign, (signedFor_sign hsign).2⟩

/-! ### Primary names -/

namespace Credential

/-- An account name, and the name that it signs for: one suffix is left out, where there is one. -/
inductive PrimaryName : Text → Text → Prop
  | secondary (name : Text) : PrimaryName (name ++ secondarySuffix) name
  | primary {account : Text} : ¬ secondarySuffix <:+ account → PrimaryName account account

/-- A name without the suffix is signed for as it is, and no other name is. -/
theorem canonicalName_eq_self_iff {account : Text} :
    canonicalName account = account ↔ ¬ secondarySuffix <:+ account := by
  rcases canonicalName_cases account with ⟨front, rfl, hfront⟩ | ⟨hnone, hself⟩
  · rw [hfront]
    constructor
    · intro h
      exact absurd (List.self_eq_append_right.1 h) (by decide)
    · intro h
      exact absurd (List.suffix_append front secondarySuffix) h
  · exact iff_of_true hself hnone

theorem primaryName_iff {account name : Text} :
    PrimaryName account name ↔ canonicalName account = name := by
  constructor
  · rintro (_ | hnone)
    · exact canonicalName_append_suffix name
    · exact canonicalName_eq_self_iff.2 hnone
  · rintro rfl
    rcases canonicalName_cases account with ⟨front, rfl, hfront⟩ | ⟨hnone, hself⟩
    · rw [hfront]
      exact .secondary front
    · rw [hself]
      exact .primary hnone

end Credential

/-! ### What signing looks at -/

/-- A resource shows of the account name what is left without the suffix. -/
theorem Resource.ofTarget_of_canonicalName {account account' : Text}
    (h : Credential.canonicalName account = Credential.canonicalName account') (target : Target)
    (variant : Variant) : ofTarget target account variant = ofTarget target account' variant := by
  rw [ofTarget, ofTarget, build, build, h]

theorem Resource.ofUrl_of_canonicalName {account account' : Text}
    (h : Credential.canonicalName account = Credential.canonicalName account') (url : Text)
    (variant : Variant) : ofUrl url account variant = ofUrl url account' variant := by
  simp only [ofUrl, build, h]

/-- So does an authorization. -/
theorem Authorization.ofResource_of_canonicalName {account account' : Text}
    (h : Credential.canonicalName account = Credential.canonicalName account') (verb : Text)
    (headers : HeaderMap) (resource : Except Error Text) (variant : Variant) (key : Bytes) :
    ofResource verb headers resource variant ⟨account, key⟩
      = ofResource verb headers resource variant ⟨account', key⟩ := by
  simp only [ofResource, headerText, Credential.canonicalAccount, h]

namespace Credential

/-- Two credentials that no signing can tell apart: whatever is signed with them, the answers, the
records and what is left of the request are the same. -/
structure SignAlike (credential credential' : Credential) : Prop where
  ofUrl : ∀ verb url headers variant,
    Authorization.ofUrl verb url headers variant credential
      = Authorization.ofUrl verb url headers variant credential'
  ofTarget : ∀ verb target headers variant,
    Authorization.ofTarget verb target headers variant credential
      = Authorization.ofTarget verb target headers variant credential'
  addToHeaders : ∀ verb url headers variant,
    Authorization.addToHeaders verb url headers variant credential
      = Authorization.addToHeaders verb url headers variant credential'
  sign : ∀ (signer : RequestSigner) (request : Request),
    signer.sign (some credential) request = signer.sign (some credential') request

/-- The name without the suffix and the key are all that signing looks at. -/
theorem signAlike_of_canonicalName {account account' : Text}
    (h : canonicalName account = canonicalName account') (key : Bytes) :
    SignAlike ⟨account, key⟩ ⟨account', key⟩ := by
  have hurl : ∀ verb url headers variant,
      Authorization.ofUrl verb url headers variant ⟨account, key⟩
        = Authorization.ofUrl verb url headers variant ⟨account', key⟩ := by
    intro verb url headers variant
    rw [Authorization.ofUrl, Authorization.ofUrl, Resource.ofUrl_of_canonicalName h,
      Authorization.ofResource_of_canonicalName h]
  have htarget : ∀ verb target headers variant,
      Authorization.ofTarget verb target headers variant ⟨account, key⟩
        = Authorization.ofTarget verb target headers variant ⟨account', key⟩ := by
    intro verb target headers variant
    rw [Authorization.ofTarget, Authorization.ofTarget, Resource.ofTarget_of_canonicalName h,
      Authorization.ofResource_of_canonicalName h]
  refine ⟨hurl, htarget, fun verb url headers variant => ?_, fun signer request => ?_⟩
  · rw [Authorization.addToHeaders, Authorization.addToHeaders, hurl]
  · simp only [RequestSigner.sign, htarget]

end Credential

/-! ### The name that is shown -/

namespace Authorization

/-- What has been signed and sent for an account name.  The name begins the recorded resource,
before the path and what the variant takes over of the query; the recorded string to sign ends with
that resource; and the name stands between the first space and the last colon of the
authorization. -/
inductive Names (path query : Text) (variant : Variant) (key : Bytes) (name : Text) :
    List LogRecord → Text → Prop
  | intro {parameters : Query.Parameters} {resource stringToSign before text : Text} :
      Query.parse query = .ok parameters →
      resource = '/' :: name ++ path ++ Resource.tail parameters variant →
      stringToSign = before ++ '\n' :: resource →
      split? text = some ⟨variant.scheme, name, signature key (Text.utf8 stringToSign)⟩ →
      Names path query variant key name [.resource resource, .stringToSign stringToSign] text

/-- An authorization shows one name. -/
theorem Names.name_eq {path query path' query' text : Text} {variant variant' : Variant}
    {key key' : Bytes} {name name' : Text} {records records' : List LogRecord}
    (h : Names path query variant key name records text)
    (h' : Names path' query' variant' key' name' records' text) : name = name' := by
  obtain ⟨-, -, -, hsplit⟩ := h
  obtain ⟨-, -, -, hsplit'⟩ := h'
  have hparts := Option.some.inj (hsplit.symm.trans hsplit')
  exact congrArg Parts.account hparts

variable {verb : Text} {headers : HeaderMap} {variant : Variant} {credential : Credential}

/-- An authorization is computed where there is a resource and a string to sign. -/
theorem answer_ofResource_eq_ok_iff {resource : Except Error Text} {text : Text} :
    (ofResource verb headers resource variant credential).answer = .ok text
      ↔ Computes verb headers resource variant credential text := by
  cases resource with
  | error e =>
      constructor
      · intro h
        cases h
      · rintro ⟨r, s, hresource, -, -⟩
        cases hresource
  | ok r =>
      rw [answer_ofResource_ok, Fallible.map_eq_ok_iff]
      constructor
      · rintro ⟨s, hbuild, rfl⟩
        exact ⟨r, s, rfl, hbuild, rfl⟩
      · rintro ⟨r', s, hresource, hbuild, rfl⟩
        obtain rfl := Except.ok.inj hresource
        exact ⟨s, hbuild, rfl⟩

/-- Resource and authorization show one name. -/
theorem names_ofResource {path query text : Text}
    (h : (ofResource verb headers (Resource.build path query credential.account variant) variant
      credential).answer = .ok text) :
    Names path query variant credential.key credential.canonicalAccount
      (ofResource verb headers (Resource.build path query credential.account variant) variant
        credential).records text := by
  obtain ⟨resource, stringToSign, hresource, hbuild, rfl⟩ := answer_ofResource_eq_ok_iff.1 h
  obtain ⟨parameters, hquery, hshape⟩ := Resource.build_eq_ok_iff.1 hresource
  obtain ⟨before, hbefore⟩ := StringToSign.exists_append_resource hbuild
  rw [hresource, ofResource_of_build hbuild]
  exact .intro hquery hshape hbefore (split?_headerText stringToSign credential variant)

/-- A url that is signed is a request target, and is signed with the path as it is written. -/
theorem names_ofUrl {url text : Text}
    (h : (ofUrl verb url headers variant credential).answer = .ok text) :
    ∃ target, Target.parse url = .ok target
      ∧ Names target.literalPath target.queryText variant credential.key
        credential.canonicalAccount (ofUrl verb url headers variant credential).records text := by
  cases hparse : Target.parse url with
  | error reason =>
      obtain ⟨r, s, hresource, -, -⟩ := answer_ofResource_eq_ok_iff.1 h
      rw [Resource.ofUrl, hparse] at hresource
      cases hresource
  | ok target =>
      rw [ofUrl, Resource.ofUrl_eq_build hparse] at h ⊢
      exact ⟨target, rfl, names_ofResource h⟩

/-- Header fields that are signed hold the text that is computed for the resource. -/
theorem authorized_of_signHeaders {resource : Except Error Text}
    (h : (signHeaders verb headers resource variant credential).answer.1 = .ok ()) :
    ∃ text, (ofResource verb headers resource variant credential).answer = .ok text
      ∧ headers.Authorized text
        (signHeaders verb headers resource variant credential).answer.2 := by
  have hsigns := signsHeaders_signHeaders verb headers resource variant credential
  generalize (signHeaders verb headers resource variant credential).answer = answer at h hsigns ⊢
  cases hsigns with
  | failed e => cases h
  | signed hcomputes hauthorized =>
      exact ⟨_, answer_ofResource_eq_ok_iff.2 hcomputes, hauthorized⟩

/-- Without header fields the root is signed with every credential. -/
theorem exists_ofTarget_root (variant : Variant) (credential : Credential) :
    ∃ text, (ofTarget Method.get.text .root .empty variant credential).answer = .ok text := by
  have hquery : Query.parse [] = .ok [] := rfl
  have hresource := Resource.build_eq_of_parse hquery ['/'] credential.account variant
  obtain ⟨s, hbuild⟩ := StringToSign.exists_build_empty Method.get.text _ variant
  exact ⟨_, answer_ofResource_eq_ok_iff.2 ⟨_, s, hresource, hbuild, rfl⟩⟩

end Authorization

namespace Credential

/-- A credential with which everything is signed for one name, on every way in: of a url given as
text or of a target, alone, in the header fields and in a request. -/
structure SignsFor (credential : Credential) (name : Text) : Prop where
  ofUrl : ∀ {verb url headers variant text},
    (Authorization.ofUrl verb url headers variant credential).answer = .ok text →
    ∃ target, Target.parse url = .ok target
      ∧ Authorization.Names target.literalPath target.queryText variant credential.key name
        (Authorization.ofUrl verb url headers variant credential).records text
  ofTarget : ∀ {verb target headers variant text},
    (Authorization.ofTarget verb target headers variant credential).answer = .ok text →
    Authorization.Names target.requestPath target.queryText variant credential.key name
      (Authorization.ofTarget verb target headers variant credential).records text
  addToHeaders : ∀ {verb url headers variant},
    (Authorization.addToHeaders verb url headers variant credential).answer.1 = .ok () →
    ∃ target text, Target.parse url = .ok target
      ∧ Authorization.Names target.literalPath target.queryText variant credential.key name
        (Authorization.addToHeaders verb url headers variant credential).records text
      ∧ headers.Authorized text
        (Authorization.addToHeaders verb url headers variant credential).answer.2
  sign : ∀ {signer : RequestSigner} {request : Request},
    (signer.sign (some credential) request).answer.1 = .ok () →
    ∃ text, Authorization.Names request.target.requestPath request.target.queryText signer.variant
        credential.key name (signer.sign (some credential) request).records text
      ∧ request.headers.Authorized text (signer.sign (some credential) request).answer.2.headers

/-- Every credential signs for its account name without the suffix. -/
theorem signsFor_canonicalAccount (credential : Credential) :
    credential.SignsFor credential.canonicalAccount where
  ofUrl h := Authorization.names_ofUrl h
  ofTarget h := Authorization.names_ofResource h
  addToHeaders := by
    intro verb url headers variant h
    obtain ⟨text, htext, hauthorized⟩ := Authorization.authorized_of_signHeaders h
    obtain ⟨target, hparse, hnames⟩ := Authorization.names_ofUrl htext
    exact ⟨target, text, hparse, hnames, hauthorized⟩
  sign := by
    intro signer request h
    obtain ⟨text, htext, hauthorized⟩ := Authorization.authorized_of_signHeaders h
    exact ⟨text, Authorization.names_ofResource htext, hauthorized⟩

/-- Credentials that sign alike sign for the same name. -/
theorem SignAlike.canonicalAccount_eq {credential credential' : Credential}
    (h : SignAlike credential credential') :
    credential.canonicalAccount = credential'.canonicalAccount := by
  have halike := h.ofTarget Method.get.text .root .empty .sharedKey
  obtain ⟨text, htext⟩ := Authorization.exists_ofTarget_root .sharedKey credential
  have hnames := credential.signsFor_canonicalAccount.ofTarget htext
  rw [halike] at htext
  exact hnames.name_eq (credential'.signsFor_canonicalAccount.ofTarget htext)

/-- **The two endpoints of an account sign alike, and every account name is signed for without one
suffix**: with the name that has the suffix, everything comes out exactly as with the one that has
not, as long as that one has not another suffix; and whatever is signed, resource and authorization
show the same name. -/
theorem endpoints_sign_alike (account : Text) (key : Bytes) :
    (SignAlike ⟨account ++ secondarySuffix, key⟩ ⟨account, key⟩ ↔ ¬ secondarySuffix <:+ account)
      ∧ ∃ name, PrimaryName account name ∧ SignsFor ⟨account, key⟩ name := by
  refine ⟨?_, canonicalName account, primaryName_iff.2 rfl,
    signsFor_canonicalAccount ⟨account, key⟩⟩
  rw [← canonicalName_eq_self_iff]
  constructor
  · intro h
    have hname := h.canonicalAccount_eq
    rw [canonicalAccount, canonicalName_append_suffix] at hname
    exact hname.symm
  · intro h
    exact signAlike_of_canonicalName ((canonicalName_append_suffix account).trans h.symm) key

/-- An account name with two suffixes. -/
def doubled : Text := "acct-secondary-secondary".toList

/-- An account at its two endpoints; and a name with two suffixes, one of which is shown. -/
theorem endpoints_sign_alike_doubled :
    SignAlike ⟨"acct-secondary".toList, [1]⟩ ⟨"acct".toList, [1]⟩
      ∧ (RequestSigner.default.sign (some ⟨doubled, [1]⟩) .forRoot).answer.1 = .ok ()
      ∧ ∃ text, Authorization.Names ['/'] [] .sharedKey [1] "acct-secondary".toList
        (RequestSigner.default.sign (some ⟨doubled, [1]⟩) .forRoot).records text := by
  have hsign : (RequestSigner.default.sign (some ⟨doubled, [1]⟩) .forRoot).answer.1 = .ok () :=
    RequestSigner.sign_forRoot _ (Text.not_hasControl_iff.2 (by decide))
  have hplain : ¬ secondarySuffix <:+ "acct".toList := by decide
  have hshown : canonicalName doubled = "acct-secondary".toList := rfl
  obtain ⟨name, hname, hsigns⟩ := (endpoints_sign_alike doubled [1]).2
  rw [primaryName_iff, hshown] at hname
  subst hname
  obtain ⟨text, hnames, -⟩ := hsigns.sign hsign
  exact ⟨(endpoints_sign_alike "acct".toList [1]).1.2 hplain, hsign, text, hnames⟩

end Credential

end SharedKey
