/-
**Requests, and the signing of requests in place.**

While a request is signed, its target and its headers are taken out of it into a context, and they
are handed back when signing ends, whether it has succeeded or not.  A request signer holds the
variant and is given a credential for every request.  A signer holds a credential as well, and
refuses to sign with one that is not valid.

Main definitions:

* `Method` — request methods;
* `Request` — what of a request takes part in signing;
* `SigningContext`, `SigningContext.detach`, `SigningContext.attach` — taking a request apart and
  putting it together;
* `RequestSigner`, `RequestSigner.sign` — signing in place with a given credential;
* `Signer`, `Signer.sign` — signing in place with the signer's own credential.
-/

import SharedKey.Signature

set_option relaxedAutoImplicit false
set_option autoImplicit false

namespace SharedKey

/-! ### Requests -/

/-- A request method, in the letter case in which it is written. -/
structure Method where
  text : Text
  /-- The text is a token. -/
  isToken_text : Text.isToken text = true
  deriving DecidableEq

/-- The method that asks for a resource. -/
def Method.get : Method := ⟨"GET".toList, by decide⟩

/-- The method of a text. -/
def Method.parse (t : Text) : Except Error Method :=
  if h : Text.isToken t = true then .ok ⟨t, h⟩ else .error .invalidMethod

/-- The target of a text, with the error of a target on its own. -/
def Target.read (t : Text) : Except Error Target :=
  match Target.parse t with
  | .ok target => .ok target
  | .error reason => .error (.invalidTarget reason)

/-- What of a request takes part in signing. -/
structure Request where
  method : Method
  target : Target
  headers : HeaderMap
  deriving DecidableEq

/-- What has been taken out of a request for signing. -/
structure SigningContext where
  method : Method
  target : Target
  headers : HeaderMap
  deriving DecidableEq

namespace SigningContext

/-- Takes target and headers out of a request, which keeps its method and is left at the root
without header fields. -/
def detach (request : Request) : SigningContext × Request :=
  (⟨request.method, request.target, request.headers⟩, ⟨request.method, Target.root, .empty⟩)

/-- Puts a context into a request in place of all that it holds. -/
def attach (context : SigningContext) (_request : Request) : Request :=
  ⟨context.method, context.target, context.headers⟩

end SigningContext

/-! ### Signers -/

/-- Signs requests with the credentials that it is given. -/
structure RequestSigner where
  /-- The variant in which requests are signed. -/
  variant : Variant
  deriving DecidableEq

namespace RequestSigner

/-- The signer in the default variant. -/
def default : RequestSigner := ⟨Variant.default⟩

/-- Signs a request in place.  Target and headers are taken out of the request, and go back into it
whether an authorization could be put to the headers or not. -/
def sign (signer : RequestSigner) (credential : Option Credential) (request : Request) :
    Logged (Except Error Unit × Request) :=
  match credential with
  | none => Logged.silent (.error .credentialRequired, request)
  | some credential =>
    let (context, rest) := SigningContext.detach request
    (Authorization.ofTarget context.method.text context.target context.headers signer.variant
      credential).map fun text =>
        let (result, headers) := Authorization.put context.headers text
        let signed : SigningContext := { context with headers := headers }
        (result, signed.attach rest)

/-- A description of the signer. -/
def describe (signer : RequestSigner) : Text :=
  "RequestSigner \x7b variant: ".toList ++ signer.variant.name ++ " \x7d".toList

end RequestSigner

/-- Signs requests with its own credential. -/
structure Signer where
  /-- The credential with which requests are signed. -/
  credential : Credential
  /-- The way in which requests are signed. -/
  requestSigner : RequestSigner
  deriving DecidableEq

namespace Signer

/-- Signs a request in place, unless the credential of the signer is not valid. -/
def sign (signer : Signer) (request : Request) : Logged (Except Error Unit × Request) :=
  if signer.credential.isValid then signer.requestSigner.sign (some signer.credential) request
  else Logged.silent (.error .credentialUnusable, request)

/-- A description of the signer that does not show the key. -/
def describe (signer : Signer) : Text :=
  "Signer \x7b credential: ".toList ++ signer.credential.describe ++ ", builder: ".toList
    ++ signer.requestSigner.describe ++ " \x7d".toList

end Signer

end SharedKey
