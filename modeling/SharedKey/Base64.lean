/-
**Base64 with the standard alphabet, padded, and read strictly.**

Three bytes are written as four digits of six bits.  A last group of one or two bytes is filled up
with padding, and the bits of its last digit that belong to no byte are zero.  Reading accepts
exactly what writing produces: no other alphabet, no missing padding, no bits left over.

Main definitions:

* `Base64.digit`, `Base64.value?` — the alphabet, in both directions;
* `Base64.encode`, `Base64.decode?` — writing and reading.

Main results:

* `Base64.value?_digit`, `Base64.digit_of_value?` — the two directions of the alphabet agree;
* `Base64.length_encode` — four digits for every three bytes or part of them.
-/

import SharedKey.Text

set_option relaxedAutoImplicit false
set_option autoImplicit false

namespace SharedKey

namespace Base64

/-! ### The alphabet -/

/-- The sixty-four digits in the order of their values. -/
def alphabet : Text := "ABCDEFGHIJKLMNOPQRSTUVWXYZabcdefghijklmnopqrstuvwxyz0123456789+/".toList

/-- The character that fills up the last group. -/
def padding : Char := '='

/-- The digit of a value below sixty-four. -/
def digit (n : Nat) : Char := alphabet.getD n padding

/-- The value of a digit. -/
def value? (c : Char) : Option Nat := alphabet.findIdx? (· == c)

/-- Reading the digit of a value gives the value back. -/
theorem value?_digit {n : Nat} (h : n < 64) : value? (digit n) = some n := by
  have hall : ∀ m < 64, value? (digit m) = some m := by decide
  exact hall n h

/-- Every value is below sixty-four. -/
theorem lt_of_value? {c : Char} {n : Nat} (h : value? c = some n) : n < 64 := by
  have hlen : alphabet.length = 64 := by decide
  rw [value?, List.findIdx?_eq_some_iff_findIdx_eq, hlen] at h
  exact h.1

/-- A character with a value is the digit of that value. -/
theorem digit_of_value? {c : Char} {n : Nat} (h : value? c = some n) : digit n = c := by
  rw [value?, List.findIdx?_eq_some_iff_getElem] at h
  obtain ⟨hn, heq, -⟩ := h
  rw [digit, List.getD_eq_getElem?_getD, List.getElem?_eq_getElem hn, Option.getD_some]
  exact beq_iff_eq.1 heq

/-! ### Writing -/

/-- The digits of a byte sequence, with padding. -/
def encode : Bytes → Text
  | [] => []
  | [a] => [digit (a.toNat / 4), digit (a.toNat % 4 * 16), padding, padding]
  | [a, b] =>
    [digit (a.toNat / 4), digit (a.toNat % 4 * 16 + b.toNat / 16), digit (b.toNat % 16 * 4),
     padding]
  | a :: b :: c :: rest =>
    digit (a.toNat / 4) :: digit (a.toNat % 4 * 16 + b.toNat / 16)
      :: digit (b.toNat % 16 * 4 + c.toNat / 64) :: digit (c.toNat % 64) :: encode rest

/-- Four digits for every three bytes or part of them. -/
theorem length_encode (b : Bytes) : (encode b).length = (b.length + 2) / 3 * 4 := by
  induction b using encode.induct with
  | case1 => rfl
  | case2 a => simp [encode]
  | case3 a b => simp [encode]
  | case4 a b c rest ih =>
      simp only [encode, List.length_cons, ih]
      omega

/-! ### Reading -/

/-- The byte of a last group of two digits. -/
def lastOne? (x y : Char) : Option Bytes :=
  match value? x, value? y with
  | some m, some n =>
    if n % 16 = 0 then some [UInt8.ofNat (m * 4 + n / 16)] else none
  | _, _ => none

/-- The bytes of a last group of three digits. -/
def lastTwo? (x y z : Char) : Option Bytes :=
  match value? x, value? y, value? z with
  | some m, some n, some k =>
    if k % 4 = 0 then
      some [UInt8.ofNat (m * 4 + n / 16), UInt8.ofNat (n % 16 * 16 + k / 4)]
    else none
  | _, _, _ => none

/-- The bytes of a group of four digits. -/
def group? (x y z w : Char) : Option Bytes :=
  match value? x, value? y, value? z, value? w with
  | some m, some n, some k, some l =>
    some [UInt8.ofNat (m * 4 + n / 16), UInt8.ofNat (n % 16 * 16 + k / 4),
      UInt8.ofNat (k % 4 * 64 + l)]
  | _, _, _, _ => none

/-- The bytes that the digits stand for, when they are the digits of some byte sequence. -/
def decode? : Text → Option Bytes
  | [] => some []
  | [x, y, z, w] =>
    if w = padding then
      if z = padding then lastOne? x y else lastTwo? x y z
    else group? x y z w
  | x :: y :: z :: w :: rest =>
    match group? x y z w, decode? rest with
    | some bytes, some more => some (bytes ++ more)
    | _, _ => none
  | _ => none

end Base64

end SharedKey
