/-
**Text as Unicode scalar values, and its bytes.**

A `Text` is a list of characters and `Bytes` is a list of octets; `Text.utf8` and `Text.ofUtf8?`
go between the two.  Every order in this library is the lexicographic order of UTF-8 bytes, and
every length limit counts bytes, so both are defined here once.

Account keys and header names are trimmed before they are read.  What is trimmed is the Unicode
property `White_Space`: it holds of the no-break space and of the ideographic space, and not of
the zero width space.  Lowercasing touches the twenty-six ASCII capitals and nothing else, as
names of header fields are ASCII.  Request methods and names of header fields are tokens.

Main definitions:

* `Text.utf8`, `Text.ofUtf8?` — encoding, and decoding of exactly the encodings;
* `Bytes.le`, `Text.le` — lexicographic order of bytes, and of texts by their bytes;
* `Text.cut` — what stands before the first separator, and what stands after it;
* `Text.after?` — what stands after the first occurrence of a text;
* `Text.splitAtByte?` — a split at a byte offset, where that offset is between two characters;
* `Text.isBlank` — the `White_Space` property;
* `Text.trim` — a text without the blanks at its two ends;
* `Text.lowercase` — the ASCII capitals made small;
* `Text.isTokenChar` — ASCII letters, digits and fifteen signs;
* `Text.isToken` — one or more of them.

Main results:

* `Text.ofUtf8?_eq_some_iff` — decoding accepts the encoding of a text and nothing else;
* `Text.utf8_injective` — a text is determined by its bytes;
* `Text.splitAtByte?_append` — the two parts of a split make up the text;
* `Text.trim_eq_self` — a text without blanks is its own trimming;
* `Text.toLower_cases` — a character is its own lowercase, or a capital;
* `Text.lowercase_lowercase` — lowercasing twice is lowercasing once.
-/

set_option relaxedAutoImplicit false
set_option autoImplicit false

namespace SharedKey

/-- A sequence of octets. -/
abbrev Bytes := List UInt8

/-- A sequence of Unicode scalar values. -/
abbrev Text := List Char

/-! ### UTF-8 -/

/-- The UTF-8 bytes of a text. -/
def Text.utf8 (t : Text) : Bytes := t.flatMap String.utf8EncodeChar

/-- The text whose UTF-8 bytes these are, when they are well formed. -/
def Text.ofUtf8? (b : Bytes) : Option Text := b.toByteArray.utf8Decode?.map Array.toList

@[simp] theorem Text.utf8_nil : Text.utf8 [] = [] := rfl

@[simp] theorem Text.utf8_cons (c : Char) (t : Text) :
    Text.utf8 (c :: t) = String.utf8EncodeChar c ++ Text.utf8 t := rfl

@[simp] theorem Text.utf8_append (s t : Text) :
    Text.utf8 (s ++ t) = Text.utf8 s ++ Text.utf8 t := by
  simp [Text.utf8]

theorem Text.toByteArray_utf8 (t : Text) : (Text.utf8 t).toByteArray = List.utf8Encode t := rfl

@[simp] theorem Text.ofUtf8?_utf8 (t : Text) : Text.ofUtf8? (Text.utf8 t) = some t := by
  simp [Text.ofUtf8?, Text.toByteArray_utf8]

/-- Decoding accepts the encoding of a text and nothing else. -/
theorem Text.ofUtf8?_eq_some_iff {b : Bytes} {t : Text} :
    Text.ofUtf8? b = some t ↔ b = Text.utf8 t := by
  constructor
  · intro h
    simp only [Text.ofUtf8?, Option.map_eq_some_iff] at h
    obtain ⟨a, ha, rfl⟩ := h
    have hsome : b.toByteArray.utf8Decode?.isSome := by simp [ha]
    have henc := ByteArray.utf8Encode_get_utf8Decode? (b := b.toByteArray) (h := hsome)
    simp only [ha, Option.get_some] at henc
    exact List.toByteArray_inj.1 henc.symm
  · rintro rfl
    exact Text.ofUtf8?_utf8 t

/-- A text is determined by its bytes. -/
theorem Text.utf8_injective {s t : Text} (h : Text.utf8 s = Text.utf8 t) : s = t := by
  have hs := Text.ofUtf8?_utf8 s
  rw [h, Text.ofUtf8?_utf8] at hs
  exact (Option.some.inj hs).symm

/-- The number of bytes that a text takes. -/
def Text.byteLength (t : Text) : Nat := (Text.utf8 t).length

@[simp] theorem Text.byteLength_nil : Text.byteLength [] = 0 := rfl

@[simp] theorem Text.byteLength_cons (c : Char) (t : Text) :
    Text.byteLength (c :: t) = c.utf8Size + Text.byteLength t := by
  simp [Text.byteLength]

/-! ### Order -/

/-- Lexicographic order of byte sequences; a proper beginning comes first. -/
def Bytes.le : Bytes → Bytes → Bool
  | [], _ => true
  | _ :: _, [] => false
  | a :: s, b :: t => a.toNat < b.toNat || (a == b && Bytes.le s t)

/-- The order of texts by their UTF-8 bytes. -/
def Text.le (s t : Text) : Bool := Bytes.le (Text.utf8 s) (Text.utf8 t)

/-! ### Cutting and joining -/

/-- What stands before the first `sep`, and what stands after it when there is one. -/
def Text.cut (sep : Char) (t : Text) : Text × Option Text :=
  (t.takeWhile (· != sep),
    match t.dropWhile (· != sep) with
    | [] => none
    | _ :: rest => some rest)

/-- What stands after the first `mark`, when there is one. -/
def Text.after? (mark : Text) : Text → Option Text
  | [] => if mark.isEmpty then some [] else none
  | c :: t =>
    if mark.isPrefixOf (c :: t) then some ((c :: t).drop mark.length) else Text.after? mark t

/-- The texts one after the other, with `sep` between neighbours. -/
def Text.join (sep : Text) (parts : List Text) : Text := sep.intercalate parts

/-- The beginning of `t` that takes `n` bytes and the rest of `t`, when a character ends there. -/
def Text.splitAtByte? : Text → Nat → Option (Text × Text)
  | t, 0 => some ([], t)
  | [], _ + 1 => none
  | c :: t, n + 1 =>
    if c.utf8Size ≤ n + 1 then
      (Text.splitAtByte? t (n + 1 - c.utf8Size)).map fun (first, last) => (c :: first, last)
    else none

/-- The two parts of a split make up the text, and the first one has the asked length. -/
theorem Text.splitAtByte?_append {t first last : Text} {n : Nat}
    (h : Text.splitAtByte? t n = some (first, last)) :
    t = first ++ last ∧ Text.byteLength first = n := by
  induction t, n using Text.splitAtByte?.induct generalizing first last with
  | case1 t => simp_all [Text.splitAtByte?]
  | case2 n => simp [Text.splitAtByte?] at h
  | case3 c t n hle ih =>
      simp only [Text.splitAtByte?, hle, if_true, Option.map_eq_some_iff] at h
      obtain ⟨⟨p, q⟩, hpq, heq⟩ := h
      simp only [Prod.mk.injEq] at heq
      obtain ⟨rfl, rfl⟩ := heq
      obtain ⟨rfl, hlen⟩ := ih hpq
      simp only [List.cons_append, Text.byteLength_cons, hlen, true_and]
      omega
  | case4 c t n hle => simp [Text.splitAtByte?, hle] at h

/-! ### Blanks and letter case -/

/-- The ranges of the `White_Space` property, by first and last code point. -/
def Text.blankRanges : List (Nat × Nat) :=
  [(0x09, 0x0D), (0x20, 0x20), (0x85, 0x85), (0xA0, 0xA0), (0x1680, 0x1680), (0x2000, 0x200A),
   (0x2028, 0x2029), (0x202F, 0x202F), (0x205F, 0x205F), (0x3000, 0x3000)]

/-- Whether the code point of `c` lies in one of the ranges. -/
def Text.inRanges (ranges : List (Nat × Nat)) (c : Char) : Bool :=
  ranges.any fun (first, last) => first ≤ c.toNat && c.toNat ≤ last

/-- The `White_Space` property. -/
def Text.isBlank (c : Char) : Bool := Text.inRanges Text.blankRanges c

/-- A text without the blanks at its beginning. -/
def Text.trimStart (t : Text) : Text := t.dropWhile Text.isBlank

/-- A text without the blanks at its end. -/
def Text.trimEnd (t : Text) : Text := (t.reverse.dropWhile Text.isBlank).reverse

/-- A text without the blanks at its two ends. -/
def Text.trim (t : Text) : Text := Text.trimEnd (Text.trimStart t)

/-- A text with its ASCII capitals made small. -/
def Text.lowercase (t : Text) : Text := t.map Char.toLower

/-- A text without blanks is its own trimming. -/
theorem Text.trim_eq_self {t : Text} (h : ∀ c ∈ t, Text.isBlank c = false) : Text.trim t = t := by
  have hdrop : ∀ s : Text, (∀ c ∈ s, Text.isBlank c = false) → s.dropWhile Text.isBlank = s := by
    intro s hs
    cases s with
    | nil => rfl
    | cons c s => simp [hs c List.mem_cons_self]
  have hrev : ∀ c ∈ t.reverse, Text.isBlank c = false := by
    intro c hc
    exact h c (List.mem_reverse.1 hc)
  rw [Text.trim, Text.trimStart, hdrop t h, Text.trimEnd, hdrop _ hrev, List.reverse_reverse]

/-- Beyond ASCII there is nothing to make small. -/
theorem Text.toLower_of_le {c : Char} (h : 128 ≤ c.toNat) : c.toLower = c := by
  unfold Char.toLower
  rw [dif_neg]
  rintro ⟨-, hle⟩
  exact Nat.not_lt.2 h (Nat.lt_of_le_of_lt (UInt32.le_iff_toNat_le.1 hle) (by decide))

/-- A character is its own lowercase, or one of the twenty-six capitals. -/
theorem Text.toLower_cases (c : Char) :
    c.toLower = c ∨ ∃ n < 26, c = Char.ofNat (65 + n) ∧ c.toLower = Char.ofNat (97 + n) := by
  by_cases hc : c.val ≥ 'A'.val ∧ c.val ≤ 'Z'.val
  · have hfirst : 65 ≤ c.toNat := UInt32.le_iff_toNat_le.1 hc.1
    have hlast : c.toNat ≤ 90 := UInt32.le_iff_toNat_le.1 hc.2
    have hsmall : ∀ n < 26, (Char.ofNat (65 + n)).toLower = Char.ofNat (97 + n) := by decide
    have hcode : Char.ofNat (65 + (c.toNat - 65)) = c := by
      rw [Nat.add_sub_cancel' hfirst, Char.ofNat_toNat]
    have hlower := hsmall (c.toNat - 65) (by omega)
    rw [hcode] at hlower
    exact .inr ⟨c.toNat - 65, by omega, hcode.symm, hlower⟩
  · exact .inl (dif_neg hc)

/-- A small letter has no further lowercase. -/
theorem Text.toLower_toLower (c : Char) : c.toLower.toLower = c.toLower := by
  rcases toLower_cases c with hself | ⟨n, hn, -, hlower⟩
  · rw [hself, hself]
  · have hsmall : ∀ n < 26, (Char.ofNat (97 + n)).toLower = Char.ofNat (97 + n) := by decide
    rw [hlower, hsmall n hn]

/-- Lowercasing twice is lowercasing once. -/
@[simp] theorem Text.lowercase_lowercase (t : Text) :
    Text.lowercase (Text.lowercase t) = Text.lowercase t := by
  rw [Text.lowercase, Text.lowercase, List.map_map]
  exact List.map_congr_left fun c _ => Text.toLower_toLower c

/-! ### Tokens -/

/-- The signs that may stand in a token beside letters and digits. -/
def Text.tokenSigns : List Char :=
  ['!', '#', '$', '%', '&', '\'', '*', '+', '-', '.', '^', '_', '`', '|', '~']

/-- A character that may stand in a token. -/
def Text.isTokenChar (c : Char) : Bool := c.isAlphanum || Text.tokenSigns.contains c

/-- One or more token characters. -/
def Text.isToken (t : Text) : Bool := !t.isEmpty && t.all Text.isTokenChar

/-- A letter or digit is ASCII. -/
theorem Text.toNat_lt_of_isAlphanum {c : Char} (h : c.isAlphanum = true) : c.toNat < 128 := by
  have hranges : ((decide (c.val ≥ 'A'.val ∧ c.val ≤ 'Z'.val)
      || decide (c.val ≥ 'a'.val) && decide (c.val ≤ 'z'.val))
      || decide (c.val ≥ '0'.val) && decide (c.val ≤ '9'.val)) = true := h
  simp only [Bool.or_eq_true, decide_eq_true_eq, Bool.and_eq_true] at hranges
  rcases hranges with (⟨-, hle⟩ | ⟨-, hle⟩) | ⟨-, hle⟩
  · exact Nat.lt_of_le_of_lt (UInt32.le_iff_toNat_le.1 hle) (by decide)
  · exact Nat.lt_of_le_of_lt (UInt32.le_iff_toNat_le.1 hle) (by decide)
  · exact Nat.lt_of_le_of_lt (UInt32.le_iff_toNat_le.1 hle) (by decide)

/-- A token character is ASCII. -/
theorem Text.toNat_lt_of_isTokenChar {c : Char} (h : Text.isTokenChar c = true) :
    c.toNat < 128 := by
  rw [Text.isTokenChar, Bool.or_eq_true] at h
  rcases h with h | h
  · exact Text.toNat_lt_of_isAlphanum h
  · have hall : Text.tokenSigns.all (fun x => decide (x.toNat < 128)) = true := by decide
    exact of_decide_eq_true (List.all_eq_true.1 hall c (List.contains_iff_mem.1 h))

/-- No token character is blank. -/
theorem Text.isBlank_of_isTokenChar {c : Char} (h : Text.isTokenChar c = true) :
    Text.isBlank c = false := by
  have hall : ∀ n < 128, Text.isTokenChar (Char.ofNat n) = true →
      Text.isBlank (Char.ofNat n) = false := by decide
  have hchar := hall c.toNat (Text.toNat_lt_of_isTokenChar h)
  rw [Char.ofNat_toNat] at hchar
  exact hchar h

end SharedKey
