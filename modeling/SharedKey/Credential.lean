/-
**The account that signs, and its key.**

The key is kept as bytes.  A key given as base64 is decoded when the credential is made, with blanks
around it left out, so a key that can not be read is reported before anything is signed.  Requests
to the secondary endpoint of a replicated account name the account with a suffix, and are signed for
the account without it.

Descriptions do not show keys.  Of a text of at least twelve bytes its first and last three bytes
are shown, where a character ends there; of every other text only whether it is empty.  Of raw bytes
the number is shown.

Main definitions:

* `Redaction.ofText`, `Redaction.ofOption`, `Redaction.ofBytes` — what stands for the secret;
* `Base64.read` — a base64 text with blanks around it;
* `Credential`, `Credential.ofSharedKey` — an account with its key, the key given as base64;
* `Credential.canonicalName` — an account name without the suffix of the secondary endpoint;
* `Credential.isValid` — whether neither the name nor the key is empty;
* `Credential.describe` — a description that does not show the key.
-/

import SharedKey.Base64
import SharedKey.Report

set_option relaxedAutoImplicit false
set_option autoImplicit false

namespace SharedKey

/-! ### What is shown of a secret -/

namespace Redaction

/-- The number of bytes below which nothing of a text is shown. -/
def shortest : Nat := 12

/-- The number of bytes that are shown at each end. -/
def shown : Nat := 3

/-- What stands for the part of a secret that is not shown. -/
def mask : Text := "***".toList

/-- What stands for a secret without content. -/
def emptyMark : Text := "EMPTY".toList

/-- What stands for a secret text. -/
def ofText (t : Text) : Text :=
  if t.isEmpty then emptyMark
  else if Text.byteLength t < shortest then mask
  else
    match Text.splitAtByte? t shown, Text.splitAtByte? t (Text.byteLength t - shown) with
    | some (first, _), some (_, last) => first ++ mask ++ last
    | _, _ => mask

/-- What stands for a secret text that may be missing; a missing one shows as an empty one. -/
def ofOption (t : Option Text) : Text := ofText (t.getD [])

/-- What stands for secret bytes. -/
def ofBytes (b : Bytes) : Text :=
  if b.isEmpty then emptyMark else '<' :: Nat.toDigits 10 b.length ++ " bytes>".toList

end Redaction

/-! ### Accounts with their keys -/

/-- The bytes of a base64 text, with blanks around it left out. -/
def Base64.read (t : Text) : Except Error Bytes :=
  match Base64.decode? (Text.trim t) with
  | some b => .ok b
  | none => .error .notBase64

/-- An account name with its key. -/
structure Credential where
  /-- The account name as it is configured. -/
  account : Text
  /-- The bytes of the key. -/
  key : Bytes
  deriving DecidableEq

namespace Credential

/-- The ending of an account name at the secondary endpoint. -/
def secondarySuffix : Text := "-secondary".toList

/-- An account name without one suffix of the secondary endpoint. -/
def canonicalName (account : Text) : Text :=
  if secondarySuffix.isSuffixOf account then account.take (account.length - secondarySuffix.length)
  else account

/-- The credential of an account whose key is given as base64. -/
def ofSharedKey (account key : Text) : Except Error Credential :=
  match Base64.read key with
  | .ok bytes => .ok ⟨account, bytes⟩
  | .error _ => .error (.accountKeyNotBase64 account)

/-- The account name that takes part in signatures. -/
def canonicalAccount (c : Credential) : Text := canonicalName c.account

/-- Whether neither the account name nor the key is empty. -/
def isValid (c : Credential) : Bool := !c.account.isEmpty && !c.key.isEmpty

/-- Whether there is a credential that is valid. -/
def isUsable : Option Credential → Bool
  | some c => c.isValid
  | none => false

/-- A description that shows the account name and the length of the key. -/
def describe (c : Credential) : Text :=
  "Credential \x7b account_name: ".toList ++ Text.quoted c.account ++ ", account_key: ".toList
    ++ Redaction.ofBytes c.key ++ " \x7d".toList

/-- The suffix is taken away once. -/
theorem canonicalName_append_suffix (account : Text) :
    canonicalName (account ++ secondarySuffix) = account := by
  have h : secondarySuffix.isSuffixOf (account ++ secondarySuffix) = true := by
    rw [List.isSuffixOf_iff_suffix]
    exact List.suffix_append _ _
  simp [canonicalName, h]

end Credential

end SharedKey
