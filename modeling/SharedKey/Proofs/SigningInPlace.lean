/-
**Signing in place, once and again and again.**

A request is signed in place either as a whole, with its target taken apart before, or by its header
fields alone, with its url given as text.  Both put together what `Authorization.signHeaders` does
with a resource: it computes an authorization from the header fields as they are, and either puts it
in place of any authorization that was there or leaves the header fields alone.  So the two ways in
can differ in the resource only, and they do for urls that end with their authority.

A request may be signed any number of times, in any of these ways and with any of them failing.
No variant reads the authorization that a request carries, so what a call computes does not depend
on the calls before it; and an authorization is put in place of the one before it, so of several
calls that succeed only the last one can be seen.  `SigningCall.authorization` is what a call
computes, and `SigningCall.run_eq` says that a call does nothing else with the request than put that
in.  One invariant carries a run of calls: the request is the first one, with one value at most in
place of its authorization (`Request.Resigned`).

Main definitions:

* `Authorization.Computes` — the text that is computed for a resource;
* `HeaderMap.Authorized`, `Request.Authorized` — header fields, and a request, after an
  authorization has been put in;
* `Authorization.SignsHeaders`, `Request.SignsInPlace` — the outcomes of signing in place;
* `Request.EndAlike` — the two ways in with the same outcome;
* `Request.authorize`, `Request.Resigned` — a request with a value in place of its authorization;
* `Request.SameButAuthorization` — requests that differ in their authorization at most;
* `SigningCall`, `SigningCall.run`, `SigningCall.runAll` — a call that signs a request in place, and
  any number of calls one after the other;
* `SigningCall.authorization` — the value that a call computes.

Main results:

* `Request.signing_is_atomic` — **signing in place replaces the authorization or changes nothing**;
* `Request.sign_agrees_with_addToHeaders` — **the two ways in agree, but for urls that end with
  their authority**;
* `StringToSign.not_reads_authorization` — no variant reads the authorization;
* `SigningCall.eq_or_authorized_run` — what a call leaves, as readings of the request show;
* `SigningCall.authorization_congr` — the authorization of a request does not influence a call;
* `SigningCall.run_of_resigned`, `SigningCall.runAll_eq` — one call, and any number of them, on a
  request that may have been signed before;
* `SigningCall.resigning` — **a request that is signed several times is as the last call that
  succeeds would have left it alone**.
-/

import Mathlib.Data.List.Induction
import SharedKey.Proofs.SigningSteps
import SharedKey.Request

set_option relaxedAutoImplicit false
set_option autoImplicit false

namespace SharedKey

/-! ### From a resource to the header fields -/

/-- Header fields after an authorization has been put in: it is the one value of its name and kept
out of logs, and no other name has changed. -/
structure HeaderMap.Authorized (before : HeaderMap) (text : Text) (after : HeaderMap) : Prop where
  others : ∀ name, name ≠ .authorization → after.values name = before.values name
  own : ∃ value, after.values .authorization = [value] ∧ value.sensitive = true
    ∧ value.bytes = Text.utf8 text

/-- A value that is put in place of the others is the one value of its name. -/
theorem HeaderMap.authorized_insert {headers : HeaderMap} {value : FieldValue} {text : Text}
    (hsensitive : value.sensitive = true) (hbytes : value.bytes = Text.utf8 text) :
    headers.Authorized text (headers.insert .authorization value) where
  others name hname := by rw [values_insert, if_neg hname.symm]
  own := ⟨value, by rw [values_insert, if_pos rfl], hsensitive, hbytes⟩

namespace Authorization

/-- The text that is computed for a resource: that of the string to sign of the request. -/
def Computes (verb : Text) (headers : HeaderMap) (resource : Except Error Text)
    (variant : Variant) (credential : Credential) (text : Text) : Prop :=
  ∃ r s, resource = .ok r ∧ StringToSign.build verb headers r variant = .ok s
    ∧ text = headerText s credential variant

/-- The outcomes of signing header fields in place. -/
inductive SignsHeaders (verb : Text) (headers : HeaderMap) (resource : Except Error Text)
    (variant : Variant) (credential : Credential) : Except Error Unit × HeaderMap → Prop
  | failed (e : Error) :
      SignsHeaders verb headers resource variant credential (.error e, headers)
  | signed {text : Text} {after : HeaderMap} :
      Computes verb headers resource variant credential text → headers.Authorized text after →
      SignsHeaders verb headers resource variant credential (.ok (), after)

theorem signsHeaders_signHeaders (verb : Text) (headers : HeaderMap)
    (resource : Except Error Text) (variant : Variant) (credential : Credential) :
    SignsHeaders verb headers resource variant credential
      (signHeaders verb headers resource variant credential).answer := by
  have hstep := step_signHeaders verb headers resource variant credential
  generalize (signHeaders verb headers resource variant credential).answer = answer at hstep ⊢
  cases hstep with
  | noResource => exact .failed _
  | unreadField _ => exact .failed _
  | refusedAccount _ _ => exact .failed _
  | signed _ _ hs hsensitive hbytes =>
      exact .signed ⟨_, _, rfl, hs, rfl⟩ (HeaderMap.authorized_insert hsensitive hbytes)

end Authorization

/-! ### Signing a request -/

/-- The outcomes of signing a request in place. -/
inductive Request.SignsInPlace (variant : Variant) (request : Request) :
    Option Credential → Except Error Unit × Request → Prop
  | failed (credential : Option Credential) (e : Error) :
      SignsInPlace variant request credential (.error e, request)
  | signed {credential : Credential} {text : Text} {after : HeaderMap} :
      Authorization.Computes request.method.text request.headers
        (Resource.ofTarget request.target credential.account variant) variant credential text →
      request.headers.Authorized text after →
      SignsInPlace variant request (some credential)
        (.ok (), ⟨request.method, request.target, after⟩)

/-- Signing a request signs its header fields, and puts them back beside method and target. -/
theorem RequestSigner.sign_some (signer : RequestSigner) (credential : Credential)
    (request : Request) :
    signer.sign (some credential) request
      = (Authorization.signHeaders request.method.text request.headers
          (Resource.ofTarget request.target credential.account signer.variant) signer.variant
          credential).map
        fun outcome => (outcome.1, ⟨request.method, request.target, outcome.2⟩) := rfl

theorem RequestSigner.signsInPlace_sign (signer : RequestSigner) (credential : Option Credential)
    (request : Request) :
    request.SignsInPlace signer.variant credential (signer.sign credential request).answer := by
  cases credential with
  | none => exact .failed none _
  | some credential =>
      have hsigns := Authorization.signsHeaders_signHeaders request.method.text request.headers
        (Resource.ofTarget request.target credential.account signer.variant) signer.variant
        credential
      rw [sign_some, Logged.answer_map]
      generalize (Authorization.signHeaders request.method.text request.headers
        (Resource.ofTarget request.target credential.account signer.variant) signer.variant
        credential).answer = outcome at hsigns ⊢
      cases hsigns with
      | failed e => exact .failed (some credential) e
      | signed hcomputes hauthorized => exact .signed hcomputes hauthorized

/-- Signing a request does not report an unusable credential. -/
theorem RequestSigner.kind_ne_of_sign {signer : RequestSigner} {credential : Option Credential}
    {request : Request} {e : Error}
    (h : (signer.sign credential request).answer.1 = .error e) : e.kind ≠ .credentialInvalid := by
  cases credential with
  | none =>
      obtain rfl := Except.error.inj h
      decide
  | some credential =>
      have hstep := Authorization.step_signHeaders request.method.text request.headers
        (Resource.ofTarget request.target credential.account signer.variant) signer.variant
        credential
      rw [sign_some, Logged.answer_map] at h
      rcases hstep.resource_eq_error_or h with hresource | hkind
      · rw [Resource.kind_of_build hresource]
        exact nofun
      · rw [hkind]
        exact nofun

/-- A signer reports an unusable credential where it has one, and signs as its request signer does
where it has a usable one. -/
theorem Signer.sign_eq (signer : Signer) (request : Request) :
    signer.sign request
      = if signer.credential.account = [] ∨ signer.credential.key = [] then
          Logged.silent (.error .credentialUnusable, request)
        else signer.requestSigner.sign (some signer.credential) request := by
  rw [sign, Credential.isValid]
  by_cases haccount : signer.credential.account = []
  · simp [haccount]
  · by_cases hkey : signer.credential.key = []
    · simp [hkey]
    · simp [haccount, hkey]

/-- **Signing in place replaces the authorization or changes nothing**, for the request signer with
or without a credential, for the signer, which reports an unusable credential exactly when it has
one, and for header fields that are signed alone. -/
theorem Request.signing_is_atomic :
    (∀ (signer : RequestSigner) (credential : Option Credential) (request : Request),
      request.SignsInPlace signer.variant credential (signer.sign credential request).answer)
    ∧ (∀ (signer : Signer) (request : Request),
      request.SignsInPlace signer.requestSigner.variant (some signer.credential)
        (signer.sign request).answer
      ∧ ((∃ e, (signer.sign request).answer.1 = .error e ∧ e.kind = .credentialInvalid)
        ↔ signer.credential.account = [] ∨ signer.credential.key = [])
      ∧ signer.sign request
        = if signer.credential.account = [] ∨ signer.credential.key = [] then
            Logged.silent (.error .credentialUnusable, request)
          else signer.requestSigner.sign (some signer.credential) request)
    ∧ ∀ (verb url : Text) (headers : HeaderMap) (variant : Variant) (credential : Credential),
      Authorization.SignsHeaders verb headers (Resource.ofUrl url credential.account variant)
        variant credential
        (Authorization.addToHeaders verb url headers variant credential).answer := by
  refine ⟨fun signer credential request => signer.signsInPlace_sign credential request, ?_, ?_⟩
  · intro signer request
    rw [signer.sign_eq request]
    by_cases hunusable : signer.credential.account = [] ∨ signer.credential.key = []
    · rw [if_pos hunusable]
      exact ⟨.failed _ _, ⟨fun _ => hunusable, fun _ => ⟨_, rfl, rfl⟩⟩, rfl⟩
    · rw [if_neg hunusable]
      refine ⟨signer.requestSigner.signsInPlace_sign _ request, ⟨?_, ?_⟩, rfl⟩
      · rintro ⟨e, he, hkind⟩
        exact absurd hkind (RequestSigner.kind_ne_of_sign he)
      · intro h
        exact absurd h hunusable
  · intro verb url headers variant credential
    exact Authorization.signsHeaders_signHeaders verb headers _ variant credential

/-! ### The two ways in -/

/-- A request that is signed as a whole and its header fields that are signed alone end alike: with
one and the same authorization, or unchanged and for the same reason. -/
inductive Request.EndAlike (request : Request) :
    Logged (Except Error Unit × Request) → Logged (Except Error Unit × HeaderMap) → Prop
  | signed {text : Text} {after : HeaderMap} (records : List LogRecord) :
      request.headers.Authorized text after →
      EndAlike request ⟨records, .ok (), ⟨request.method, request.target, after⟩⟩
        ⟨records, .ok (), after⟩
  | failed (records : List LogRecord) (e : Error) :
      EndAlike request ⟨records, .error e, request⟩ ⟨records, .error e, request.headers⟩

/-- With one resource the two ways end alike. -/
theorem Request.endAlike_of_resource (signer : RequestSigner) (credential : Credential)
    (request : Request) :
    request.EndAlike (signer.sign (some credential) request)
      (Authorization.signHeaders request.method.text request.headers
        (Resource.ofTarget request.target credential.account signer.variant) signer.variant
        credential) := by
  have hsigns := Authorization.signsHeaders_signHeaders request.method.text request.headers
    (Resource.ofTarget request.target credential.account signer.variant) signer.variant credential
  rw [RequestSigner.sign_some]
  generalize Authorization.signHeaders request.method.text request.headers
    (Resource.ofTarget request.target credential.account signer.variant) signer.variant
    credential = outcome at hsigns ⊢
  obtain ⟨records, answer⟩ := outcome
  cases hsigns with
  | failed e => exact .failed records e
  | signed _ hauthorized => exact .signed records hauthorized

/-- **The two ways in agree, but for urls that end with their authority**: for these a request is
signed with the root as its path, and header fields alone with no path. -/
theorem Request.sign_agrees_with_addToHeaders {url : Text} {target : Target}
    (h : Target.parse url = .ok target) (method : Method) (headers : HeaderMap)
    (variant : Variant) (credential : Credential) :
    (¬ Target.IsBareUrl url →
      Request.EndAlike ⟨method, target, headers⟩
        (RequestSigner.sign ⟨variant⟩ (some credential) ⟨method, target, headers⟩)
        (Authorization.addToHeaders method.text url headers variant credential))
    ∧ (Target.IsBareUrl url →
      RequestSigner.sign ⟨variant⟩ (some credential) ⟨method, target, headers⟩
          = (Authorization.signHeaders method.text headers
              (Resource.build ['/'] [] credential.account variant) variant credential).map
            (fun outcome => (outcome.1, ⟨method, target, outcome.2⟩))
        ∧ Authorization.addToHeaders method.text url headers variant credential
          = Authorization.signHeaders method.text headers
              (Resource.build [] [] credential.account variant) variant credential) := by
  have hadd : Authorization.addToHeaders method.text url headers variant credential
      = Authorization.signHeaders method.text headers
          (Resource.build target.literalPath target.queryText credential.account variant) variant
          credential := by
    rw [← Resource.ofUrl_eq_build h]
    rfl
  rw [hadd]
  constructor
  · intro hbare
    have hpath : target.requestPath = target.literalPath := by
      rcases target.requestPath_eq with heq | hform
      · exact heq
      · exact absurd ((Target.isBareUrl_iff h).2 hform) hbare
    have halike := endAlike_of_resource ⟨variant⟩ credential ⟨method, target, headers⟩
    rw [Resource.ofTarget, hpath] at halike
    exact halike
  · intro hbare
    obtain ⟨scheme, authority, rfl⟩ := (Target.isBareUrl_iff h).1 hbare
    exact ⟨rfl, rfl⟩

def Credential.short : Credential := ⟨"a".toList, [1]⟩

/-- A url with a path and one without: the first is signed alike, and of the second the records
show two paths. -/
theorem Request.sign_agrees_with_addToHeaders_path_and_bare :
    Request.EndAlike ⟨.get, .absoluteForm "http".toList "a".toList "/b".toList none, .empty⟩
        (RequestSigner.sign ⟨.sharedKeyLiteForTable⟩ (some Credential.short)
          ⟨.get, .absoluteForm "http".toList "a".toList "/b".toList none, .empty⟩)
        (Authorization.addToHeaders Method.get.text "http://a/b".toList .empty
          .sharedKeyLiteForTable Credential.short)
      ∧ (RequestSigner.sign ⟨.sharedKeyLiteForTable⟩ (some Credential.short)
          ⟨.get, .absoluteForm "http".toList "a".toList [] none, .empty⟩).records
        = [.resource "/a/".toList, .stringToSign "\n/a/".toList]
      ∧ (Authorization.addToHeaders Method.get.text "http://a".toList .empty
          .sharedKeyLiteForTable Credential.short).records
        = [.resource "/a".toList, .stringToSign "\n/a".toList] := by
  have hpath : Target.parse "http://a/b".toList
      = .ok (.absoluteForm "http".toList "a".toList "/b".toList none) := rfl
  have hbare : Target.parse "http://a".toList
      = .ok (.absoluteForm "http".toList "a".toList [] none) := rfl
  refine ⟨(sign_agrees_with_addToHeaders hpath .get .empty _ Credential.short).1 ?_, ?_⟩
  · rw [Target.isBareUrl_iff hpath]
    rintro ⟨scheme, authority, heq⟩
    cases heq
  · obtain ⟨hsign, hadd⟩ := (sign_agrees_with_addToHeaders hbare .get .empty
      .sharedKeyLiteForTable Credential.short).2 ((Target.isBareUrl_iff hbare).2 ⟨_, _, rfl⟩)
    rw [hsign, hadd]
    exact ⟨by decide, by decide⟩

/-! ### One authorization in place of another -/

/-- Of two values that are put in place one after the other the second one remains. -/
theorem HeaderMap.insert_insert (headers : HeaderMap) (name : FieldName) (v w : FieldValue) :
    (headers.insert name v).insert name w = headers.insert name w := by
  simp [insert, remove, append, List.filter_append, List.filter_filter]

namespace Request

/-- The request with one value in place of any authorization that it had. -/
def authorize (request : Request) (value : FieldValue) : Request :=
  { request with headers := request.headers.insert .authorization value }

/-- What becomes of a request for which a value has been computed, or has failed to be. -/
def conclude (request : Request) : Except Error FieldValue → Except Error Unit × Request
  | .ok value => (.ok (), request.authorize value)
  | .error e => (.error e, request)

/-- The second request is the first one, or the first one with a value in place of its
authorization. -/
def Resigned (request request' : Request) : Prop :=
  request' = request ∨ ∃ value, request' = request.authorize value

/-- A request after an authorization has been put in, as readings of it show: method and target are
as they were, and so are the values of every name but its own, of which it is the one value. -/
structure Authorized (before : Request) (text : Text) (after : Request) : Prop where
  method : after.method = before.method
  target : after.target = before.target
  headers : before.headers.Authorized text after.headers

/-- Two requests that differ in their authorization at most: in whether there is one, in the number
of its values, and in these values. -/
structure SameButAuthorization (request request' : Request) : Prop where
  method : request'.method = request.method
  target : request'.target = request.target
  values : ∀ name, name ≠ .authorization →
    request'.headers.values name = request.headers.values name

theorem sameButAuthorization_authorize (request : Request) (value : FieldValue) :
    request.SameButAuthorization (request.authorize value) where
  method := rfl
  target := rfl
  values name hname := by rw [authorize, HeaderMap.values_insert, if_neg hname.symm]

namespace Resigned

variable {request request' : Request}

theorem sameButAuthorization (h : request.Resigned request') :
    request.SameButAuthorization request' := by
  rcases h with rfl | ⟨value, rfl⟩
  · exact ⟨rfl, rfl, fun _ _ => rfl⟩
  · exact request.sameButAuthorization_authorize value

/-- A value that is put in hides whether another one was put in before. -/
theorem authorize_eq (h : request.Resigned request') (value : FieldValue) :
    request'.authorize value = request.authorize value := by
  rcases h with rfl | ⟨v, rfl⟩
  · rfl
  · simp only [authorize, HeaderMap.insert_insert]

end Resigned

end Request

/-! ### The authorization is not read -/

/-- No variant reads the authorization. -/
theorem StringToSign.not_reads_authorization (variant : Variant) :
    ¬ Reads variant .authorization := by
  rintro (hlisted | ⟨-, hstart⟩)
  · cases variant <;> exact absurd hlisted (by decide)
  · exact absurd (List.isPrefixOf_iff_prefix.2 hstart) (by decide)

/-- Requests that differ in their authorization at most read the same to every variant. -/
theorem Request.SameButAuthorization.first?_eq {request request' : Request}
    (h : request.SameButAuthorization request') {variant : Variant} {name : FieldName}
    (hname : StringToSign.Reads variant name) :
    request'.headers.first? name = request.headers.first? name := by
  have hne : name ≠ .authorization := by
    rintro rfl
    exact StringToSign.not_reads_authorization variant hname
  rw [HeaderMap.first?, HeaderMap.first?, h.values name hne]

/-! ### Calls -/

/-- A call that signs a request in place. -/
inductive SigningCall
  /-- By a request signer, with the credential that it is given. -/
  | byRequestSigner (signer : RequestSigner) (credential : Option Credential)
  /-- By a signer, with its own credential. -/
  | bySigner (signer : Signer)
  /-- Of the header fields alone, for a verb and a url that need not be those of the request. -/
  | ofHeaders (verb url : Text) (variant : Variant) (credential : Credential)

namespace SigningCall

/-- What a call answers, and the request after it. -/
def run : SigningCall → Request → Logged (Except Error Unit × Request)
  | .byRequestSigner signer credential, request => signer.sign credential request
  | .bySigner signer, request => signer.sign request
  | .ofHeaders verb url variant credential, request =>
    (Authorization.addToHeaders verb url request.headers variant credential).map
      fun (result, headers) => (result, { request with headers := headers })

/-- Whether a call succeeds on a request. -/
def succeeds (call : SigningCall) (request : Request) : Bool := (call.run request).answer.1.isOk

/-- The calls one after the other, each on the request that the one before it leaves: what each of
them answers, and the request after the last one. -/
def runAll : List SigningCall → Request → List (Logged (Except Error Unit)) × Request
  | [], request => ([], request)
  | call :: calls, request =>
    let outcome := call.run request
    let (answers, after) := runAll calls outcome.answer.2
    (outcome.map Prod.fst :: answers, after)

/-- The value that a request signer computes with a credential. -/
def signerValue (signer : RequestSigner) (credential : Credential) (request : Request) :
    Logged (Except Error FieldValue) :=
  (Authorization.ofTarget request.method.text request.target request.headers signer.variant
    credential).map (·.bind Authorization.headerValue)

/-- The value that a call computes for a request, with the records made on the way. -/
def authorization : SigningCall → Request → Logged (Except Error FieldValue)
  | .byRequestSigner _ none, _ => Logged.silent (.error .credentialRequired)
  | .byRequestSigner signer (some credential), request => signerValue signer credential request
  | .bySigner signer, request =>
    if signer.credential.isValid then signerValue signer.requestSigner signer.credential request
    else Logged.silent (.error .credentialUnusable)
  | .ofHeaders verb url variant credential, request =>
    (Authorization.ofUrl verb url request.headers variant credential).map
      (·.bind Authorization.headerValue)

/-- Putting an authorization into the header fields concludes the request that holds them. -/
theorem put_eq_conclude (request : Request) (text : Except Error Text) :
    ((Authorization.put request.headers text).1,
        { request with headers := (Authorization.put request.headers text).2 })
      = request.conclude (text.bind Authorization.headerValue) := by
  rw [Authorization.put]
  cases text.bind Authorization.headerValue with
  | error e => rfl
  | ok value => rfl

theorem sign_eq_conclude (signer : RequestSigner) (credential : Credential) (request : Request) :
    signer.sign (some credential) request
      = (signerValue signer credential request).map request.conclude := by
  simp only [RequestSigner.sign_some, Authorization.signHeaders, signerValue, Logged.map,
    ← put_eq_conclude]
  rfl

/-- A call computes a value and puts it into the request, and does nothing else. -/
theorem run_eq (call : SigningCall) (request : Request) :
    call.run request = (call.authorization request).map request.conclude := by
  cases call with
  | byRequestSigner signer credential =>
      cases credential with
      | none => rfl
      | some credential => exact sign_eq_conclude signer credential request
  | bySigner signer =>
      rw [run, Signer.sign, authorization]
      split
      · exact sign_eq_conclude signer.requestSigner signer.credential request
      · rfl
  | ofHeaders verb url variant credential =>
      simp only [run, authorization, Authorization.addToHeaders, Logged.map, ← put_eq_conclude]

/-- The value that a call computes is kept out of logs and has the bytes of a text. -/
theorem exists_text_of_authorization {call : SigningCall} {request : Request} {value : FieldValue}
    (h : (call.authorization request).answer = .ok value) :
    ∃ text, value.sensitive = true ∧ value.bytes = Text.utf8 text := by
  have hbind : ∀ {text : Except Error Text},
      text.bind Authorization.headerValue = .ok value →
      ∃ t, value.sensitive = true ∧ value.bytes = Text.utf8 t := by
    intro text htext
    cases text with
    | error e => cases htext
    | ok t => exact ⟨t, Authorization.sensitive_of_headerValue htext⟩
  cases call with
  | byRequestSigner signer credential =>
      cases credential with
      | none => cases h
      | some credential => exact hbind h
  | bySigner signer =>
      rw [authorization] at h
      split at h
      · exact hbind h
      · cases h
  | ofHeaders verb url variant credential => exact hbind h

/-- **The authorization of a request does not influence what a call computes.** -/
theorem authorization_congr {request request' : Request}
    (h : request.SameButAuthorization request') (call : SigningCall) :
    call.authorization request' = call.authorization request := by
  have hsigner : ∀ (signer : RequestSigner) (credential : Credential),
      signerValue signer credential request' = signerValue signer credential request := by
    intro signer credential
    rw [signerValue, signerValue, h.method, h.target, Authorization.ofTarget,
      Authorization.ofResource_congr fun _ => h.first?_eq, Authorization.ofTarget]
  cases call with
  | byRequestSigner signer credential =>
      cases credential with
      | none => rfl
      | some credential => exact hsigner signer credential
  | bySigner signer => simp only [authorization, hsigner]
  | ofHeaders verb url variant credential =>
      rw [authorization, authorization, Authorization.ofUrl,
        Authorization.ofResource_congr fun _ => h.first?_eq, Authorization.ofUrl]

/-! ### Runs of calls -/

variable {request request' : Request}

/-- **One call on a request that may have been signed before**: it answers as on the request as it
was first, and leaves what it would have left of that one, or nothing new where it fails. -/
theorem run_of_resigned (h : request.Resigned request') (call : SigningCall) :
    (call.run request').map Prod.fst = (call.run request).map Prod.fst
      ∧ (call.run request').answer.2
        = if call.succeeds request then (call.run request).answer.2 else request' := by
  rw [succeeds, run_eq, run_eq, authorization_congr h.sameButAuthorization]
  generalize call.authorization request = computed
  obtain ⟨records, answer⟩ := computed
  cases answer with
  | error e => exact ⟨rfl, rfl⟩
  | ok value => exact ⟨rfl, h.authorize_eq value⟩

/-- A call leaves the request as it is, or puts one value in place of its authorization. -/
theorem resigned_run (call : SigningCall) (request : Request) :
    request.Resigned (call.run request).answer.2 := by
  rw [run_eq, Logged.answer_map]
  cases (call.authorization request).answer with
  | error e => exact .inl rfl
  | ok value => exact .inr ⟨value, rfl⟩

/-- Where a call succeeds, an authorization has been put in. -/
theorem exists_authorized_insert {call : SigningCall} {request : Request} {value : FieldValue}
    (h : (call.authorization request).answer = .ok value) :
    ∃ text, request.headers.Authorized text (request.headers.insert .authorization value) := by
  obtain ⟨text, hsensitive, hbytes⟩ := exists_text_of_authorization h
  exact ⟨text, HeaderMap.authorized_insert hsensitive hbytes⟩

/-- A call leaves the request as it is, or with an authorization put in. -/
theorem eq_or_authorized_run (call : SigningCall) (request : Request) :
    (call.run request).answer.2 = request
      ∨ ∃ text, request.Authorized text (call.run request).answer.2 := by
  rw [run_eq, Logged.answer_map]
  cases h : (call.authorization request).answer with
  | error e => exact .inl rfl
  | ok value =>
      obtain ⟨text, htext⟩ := exists_authorized_insert h
      exact .inr ⟨text, rfl, rfl, htext⟩

/-- A last call runs on the request that the calls before it leave. -/
theorem runAll_concat (calls : List SigningCall) (call : SigningCall) (request : Request) :
    runAll (calls ++ [call]) request
      = ((runAll calls request).1 ++ [(call.run (runAll calls request).2).map Prod.fst],
          (call.run (runAll calls request).2).answer.2) := by
  induction calls generalizing request with
  | nil => rfl
  | cons first calls ih => simp only [List.cons_append, runAll, ih]

/-- The request as the last of the calls that succeed on it leaves it. -/
def leftByLast (calls : List SigningCall) (request : Request) : Request :=
  match (calls.filter (·.succeeds request)).getLast? with
  | some call => (call.run request).answer.2
  | none => request

theorem resigned_leftByLast (calls : List SigningCall) (request : Request) :
    request.Resigned (leftByLast calls request) := by
  rw [leftByLast]
  split
  · exact resigned_run _ request
  · exact .inl rfl

theorem eq_or_authorized_leftByLast (calls : List SigningCall) (request : Request) :
    leftByLast calls request = request
      ∨ ∃ text, request.Authorized text (leftByLast calls request) := by
  rw [leftByLast]
  split
  · exact eq_or_authorized_run _ request
  · exact .inl rfl

theorem leftByLast_concat (calls : List SigningCall) (call : SigningCall) (request : Request) :
    leftByLast (calls ++ [call]) request
      = if call.succeeds request then (call.run request).answer.2
        else leftByLast calls request := by
  rw [leftByLast, List.filter_append]
  cases h : call.succeeds request with
  | true => simp [h]
  | false => simp [h, leftByLast]

/-- **Any number of calls**: each answers as it does alone, and the last one that succeeds alone can
be seen in the end. -/
theorem runAll_eq (calls : List SigningCall) (request : Request) :
    runAll calls request
      = (calls.map fun call => (call.run request).map Prod.fst, leftByLast calls request) := by
  induction calls using List.reverseRecOn with
  | nil => rfl
  | append_singleton calls call ih =>
      -- the calls before the last one leave a request that `run_of_resigned` applies to
      obtain ⟨hanswer, hafter⟩ := run_of_resigned (resigned_leftByLast calls request) call
      rw [runAll_concat, ih, hanswer, hafter, leftByLast_concat, List.map_append]
      rfl

/-- **A request that is signed several times is as the last call that succeeds would have left it
alone**, and each call answers as it would alone.  A call, and a run of them too, leaves the request
as it is, or one value in place of its authorization and everything else as it was; the
authorization that there was influences neither that value nor an error; and the same call a second
time changes nothing. -/
theorem resigning :
    (∀ (calls : List SigningCall) (request : Request),
      (runAll calls request).1 = calls.map (fun call => (call.run request).map Prod.fst)
      ∧ (runAll calls request).2 = leftByLast calls request
      ∧ ((runAll calls request).2 = request
        ∨ ∃ text, request.Authorized text (runAll calls request).2))
    ∧ (∀ (call : SigningCall) (request : Request),
      (∃ e, (call.run request).answer = (.error e, request))
      ∨ ∃ value text, (call.run request).answer
          = (.ok (), { request with headers := request.headers.insert .authorization value })
        ∧ request.headers.Authorized text (request.headers.insert .authorization value))
    ∧ (∀ (call : SigningCall) (request request' : Request),
      request.SameButAuthorization request' →
      ∃ computed : Logged (Except Error FieldValue),
        call.run request = computed.map request.conclude
        ∧ call.run request' = computed.map request'.conclude)
    ∧ ∀ (call : SigningCall) (request : Request),
      call.run (call.run request).answer.2 = call.run request := by
  refine ⟨?_, ?_, ?_, ?_⟩
  · intro calls request
    rw [runAll_eq]
    exact ⟨rfl, rfl, eq_or_authorized_leftByLast calls request⟩
  · intro call request
    rw [run_eq, Logged.answer_map]
    cases h : (call.authorization request).answer with
    | error e => exact .inl ⟨e, rfl⟩
    | ok value =>
        obtain ⟨text, htext⟩ := exists_authorized_insert h
        exact .inr ⟨value, text, rfl, htext⟩
  · intro call request request' h
    refine ⟨call.authorization request, run_eq call request, ?_⟩
    rw [run_eq, authorization_congr h]
  · intro call request
    have hresigned := resigned_run call request
    rw [run_eq call (call.run request).answer.2,
      authorization_congr hresigned.sameButAuthorization, run_eq call request]
    generalize call.authorization request = computed
    obtain ⟨records, answer⟩ := computed
    cases answer with
    | error e => rfl
    | ok value =>
        have hagain : (request.authorize value).authorize value = request.authorize value :=
          Request.Resigned.authorize_eq (.inr ⟨value, rfl⟩) value
        simp only [Logged.map, Request.conclude, hagain]

/-! ### A request that has been signed before -/

/-- A request with two authorizations, neither of which is text. -/
def signedBefore : Request :=
  ⟨.get, .root, ⟨[(.authorization, ⟨[0xFF], false, Eq.refl true⟩),
    (.date, ⟨[0x31], false, Eq.refl true⟩), (.authorization, ⟨[0xFE], false, Eq.refl true⟩)]⟩⟩

/-- The same request without them. -/
def unsigned : Request := ⟨.get, .root, ⟨[(.date, ⟨[0x31], false, Eq.refl true⟩)]⟩⟩

def lite : SigningCall := .byRequestSigner ⟨.sharedKeyLite⟩ (some Credential.short)

def table : SigningCall := .byRequestSigner ⟨.sharedKeyForTable⟩ (some Credential.short)

def keyless : SigningCall := .byRequestSigner .default none

theorem succeeds_byRequestSigner {signer : RequestSigner} {credential : Credential} {r s : Text}
    (hresource : Resource.ofTarget request.target credential.account signer.variant = .ok r)
    (hbuild : StringToSign.build request.method.text request.headers r signer.variant = .ok s)
    (haccount : ¬ Text.HasControl credential.canonicalAccount) :
    succeeds (.byRequestSigner signer (some credential)) request = true := by
  have hok := Authorization.signHeaders_eq_ok hresource hbuild haccount
  simp only [succeeds, run, RequestSigner.sign_some, Logged.answer_map, hok]
  rfl

/-- Of four calls, the second and the fourth of which fail, the third one can be seen; and it does
the same to the request without its authorizations. -/
theorem resigning_signedBefore :
    unsigned.SameButAuthorization signedBefore
      ∧ table.succeeds signedBefore = true
      ∧ (runAll [lite, keyless, table, keyless] signedBefore).2 = (table.run signedBefore).answer.2
      ∧ ∃ computed : Logged (Except Error FieldValue),
        table.run unsigned = computed.map unsigned.conclude
        ∧ table.run signedBefore = computed.map signedBefore.conclude := by
  obtain ⟨hrun, -, hsame, -⟩ := resigning
  have hunsigned : unsigned.SameButAuthorization signedBefore := by
    refine ⟨rfl, rfl, fun name hname => ?_⟩
    simp [unsigned, signedBefore, HeaderMap.values, List.filter_cons, hname.symm]
  have hresource : Resource.ofTarget .root Credential.short.account .sharedKeyForTable
      = .ok "/a/".toList := rfl
  have hbuild : StringToSign.build Method.get.text signedBefore.headers "/a/".toList
      .sharedKeyForTable = .ok "GET\n\n\n1\n/a/".toList := by decide +kernel
  have haccount : ¬ Text.HasControl Credential.short.canonicalAccount :=
    Text.not_hasControl_iff.2 (by decide)
  have htable : table.succeeds signedBefore = true :=
    succeeds_byRequestSigner hresource hbuild haccount
  have hkeyless : keyless.succeeds signedBefore = false := rfl
  have hfour : [lite, keyless, table, keyless] = [lite, keyless] ++ [table] ++ [keyless] := rfl
  refine ⟨hunsigned, htable, ?_, hsame table unsigned signedBefore hunsigned⟩
  rw [(hrun _ _).2.1, hfour, leftByLast_concat, if_neg (by rw [hkeyless]; decide),
    leftByLast_concat, if_pos htable]

end SigningCall

end SharedKey
