/-
**Looking for broken escapes in bytes.**

A query is a text, and whether its escapes are whole can be asked of its bytes as well: of every
byte that is a percent sign, whether the two bytes after it are digits.  That takes windows of bytes
out of the query, and a window may reach over the end, or cut a character that takes several bytes.
Here the search is written down byte by byte, with an outcome of its own for a window that is not
there.  That outcome never comes, and the search finds what `Text.brokenEscape?` finds: only ASCII
characters take bytes that are digits or percent signs.

With it the queries that can be read are described by what they have to be, in place of what spoils
them.

Main definitions:

* `Bytes.slice?` — the bytes between two offsets, where both are in range;
* `EscapeScan`, `Bytes.scanEscapes` — the search and its outcomes;
* `Query.Grammatical` — the queries that can be read.

Main results:

* `Bytes.scanEscapes_utf8` — **the search in bytes finds the broken escape of the text, and never
  leaves the range**;
* `Query.parse_accepts_grammatical` — **a query is read exactly when it is grammatical**.
-/

import SharedKey.Proofs.QueryOrder

set_option relaxedAutoImplicit false
set_option autoImplicit false

namespace SharedKey

/-! ### The search -/

/-- What comes of looking for a broken escape in bytes. -/
inductive EscapeScan
  /-- Two digits follow every percent sign. -/
  | unbroken
  /-- They do not follow one, and these bytes show it. -/
  | broken (window : Bytes)
  /-- Bytes were asked for that are not there. -/
  | outOfRange
  deriving DecidableEq

namespace Bytes

/-- The bytes from one offset up to another, where both are in range. -/
def slice? (b : Bytes) (first last : Nat) : Option Bytes :=
  if first ≤ last ∧ last ≤ b.length then some ((b.drop first).take (last - first)) else none

/-- The byte of a hexadecimal digit of either case. -/
def isHexDigit (b : UInt8) : Bool :=
  (0x30 ≤ b.toNat && b.toNat ≤ 0x39) || (0x61 ≤ b.toNat && b.toNat ≤ 0x66)
    || (0x41 ≤ b.toNat && b.toNat ≤ 0x46)

/-- The search from an offset on, with the bytes that are still to be looked at.  A window after a
percent sign may be missing, which makes the escape a broken one; the window that shows it ends with
the bytes at the latest. -/
def scanEscapesFrom (all : Bytes) : Nat → Bytes → EscapeScan
  | _, [] => .unbroken
  | offset, b :: rest =>
    if b = 0x25 ∧ (slice? all (offset + 1) (offset + 3)).any (·.all isHexDigit) = false then
      match slice? all offset (min (offset + Query.escapeWindow) all.length) with
      | some window => .broken window
      | none => .outOfRange
    else scanEscapesFrom all (offset + 1) rest

/-- The search in all bytes. -/
def scanEscapes (b : Bytes) : EscapeScan := scanEscapesFrom b 0 b

/-! ### Windows -/

/-- A window after known bytes. -/
theorem slice?_append (before after : Bytes) (n : Nat) :
    slice? (before ++ after) before.length (before.length + n)
      = if n ≤ after.length then some (after.take n) else none := by
  rw [slice?, List.length_append, List.drop_left]
  by_cases hn : n ≤ after.length
  · rw [if_pos hn, if_pos (by omega), Nat.add_sub_cancel_left]
  · rw [if_neg hn, if_neg (by omega)]

/-- A window that ends with the bytes at the latest is there. -/
theorem slice?_append_min (before after : Bytes) (n : Nat) :
    slice? (before ++ after) before.length (min (before.length + n) (before ++ after).length)
      = some (after.take n) := by
  rw [List.length_append, Nat.add_min_add_left, slice?_append, if_pos (Nat.min_le_right _ _)]
  rcases Nat.le_total n after.length with hle | hle
  · rw [Nat.min_eq_left hle]
  · rw [Nat.min_eq_right hle, List.take_length, List.take_of_length_le hle]

/-- Bytes without a percent sign are passed over. -/
theorem scanEscapesFrom_append {all passed rest : Bytes} (h : 0x25 ∉ passed) (offset : Nat) :
    scanEscapesFrom all offset (passed ++ rest)
      = scanEscapesFrom all (offset + passed.length) rest := by
  induction passed generalizing offset with
  | nil => rfl
  | cons b passed ih =>
      rw [List.mem_cons, not_or] at h
      rw [List.cons_append, scanEscapesFrom, if_neg fun hb => h.1 hb.1.symm, ih h.2,
        List.length_cons, Nat.add_assoc, Nat.add_comm 1]

end Bytes

/-! ### Characters and their bytes -/

namespace Text

theorem isHexDigit_iff {c : Char} {b : UInt8} (h : b.toNat = c.toNat) :
    Bytes.isHexDigit b = true ↔ IsHexDigit c := by
  have hle : ∀ x y : Char, x ≤ y ↔ x.toNat ≤ y.toNat := fun x y => UInt32.le_iff_toNat_le
  simp only [Bytes.isHexDigit, IsHexDigit, hle, h, Bool.or_eq_true, Bool.and_eq_true,
    decide_eq_true_eq, or_assoc]
  rfl

theorem IsHexDigit.toNat_lt {c : Char} (h : IsHexDigit c) : c.toNat < 0x80 := by
  have hle : ∀ x y : Char, x ≤ y ↔ x.toNat ≤ y.toNat := fun x y => UInt32.le_iff_toNat_le
  simp only [IsHexDigit, hle] at h
  rcases h with ⟨-, h⟩ | ⟨-, h⟩ | ⟨-, h⟩
  · exact Nat.lt_of_le_of_lt h (by decide)
  · exact Nat.lt_of_le_of_lt h (by decide)
  · exact Nat.lt_of_le_of_lt h (by decide)

/-- An ASCII byte is the number of its character. -/
theorem toNat_of_utf8EncodeChar {c : Char} {b : UInt8} (hb : b.toNat < 0x80)
    (h : String.utf8EncodeChar c = [b]) : b.toNat = c.toNat := by
  obtain ⟨d, hd, hsingle⟩ := exists_utf8EncodeChar_eq hb
  have hchars : utf8 [c] = utf8 [d] := by
    rw [utf8_cons, utf8_cons, h, hsingle]
  rw [List.head_eq_of_cons_eq (utf8_injective hchars), hd]

/-- A character begins with the byte of a digit exactly when it is one, and then takes no other. -/
theorem exists_utf8EncodeChar_eq_cons (c : Char) :
    ∃ b rest, String.utf8EncodeChar c = b :: rest ∧ (Bytes.isHexDigit b = true ↔ IsHexDigit c)
      ∧ (IsHexDigit c → rest = []) := by
  rcases utf8EncodeChar_cases c with ⟨b, hb, hsingle⟩ | hmany
  · exact ⟨b, [], hsingle, isHexDigit_iff (toNat_of_utf8EncodeChar hb hsingle), fun _ => rfl⟩
  · have hdigit : ¬ IsHexDigit c := by
      intro h
      obtain ⟨b, hb, hsingle⟩ := utf8EncodeChar_of_lt h.toNat_lt
      have hle := hmany b (hsingle ▸ List.mem_singleton_self b)
      have hlt := h.toNat_lt
      omega
    obtain ⟨b, rest, hcons⟩ := List.exists_cons_of_ne_nil (String.utf8EncodeChar_ne_nil (c := c))
    have hle : 0x80 ≤ b.toNat := hmany b (hcons ▸ List.mem_cons_self)
    refine ⟨b, rest, hcons, ⟨fun h => ?_, fun h => absurd h hdigit⟩, fun h => absurd h hdigit⟩
    simp only [Bytes.isHexDigit, Bool.or_eq_true, Bool.and_eq_true, decide_eq_true_eq] at h
    omega

/-- Only the percent sign takes its byte. -/
theorem percent_notMem_utf8EncodeChar {c : Char} (hc : c ≠ '%') :
    0x25 ∉ String.utf8EncodeChar c := by
  intro hmem
  rcases utf8EncodeChar_cases c with ⟨b, -, hsingle⟩ | hmany
  · rw [hsingle, List.mem_singleton] at hmem
    subst hmem
    have hpercent : Text.utf8 [c] = Text.utf8 ['%'] := by
      rw [Text.utf8_cons, hsingle]
      rfl
    exact hc (List.head_eq_of_cons_eq (Text.utf8_injective hpercent))
  · exact absurd (hmany _ hmem) (by decide)

/-- Two digits come first exactly when two bytes of digits do. -/
theorem startsEscape_iff_take {t : Text} :
    StartsEscape t ↔ 2 ≤ (utf8 t).length ∧ ((utf8 t).take 2).all Bytes.isHexDigit = true := by
  match t with
  | [] =>
      refine ⟨fun h => absurd h.two_le_length (by decide), fun h => absurd h.1 (by decide)⟩
  | high :: t =>
      obtain ⟨b, rest, hhigh, hdigit, hnil⟩ := exists_utf8EncodeChar_eq_cons high
      constructor
      · intro h
        match t with
        | [] => exact absurd h.two_le_length (by simp)
        | low :: t =>
            obtain ⟨b', rest', hlow, hdigit', -⟩ := exists_utf8EncodeChar_eq_cons low
            obtain ⟨hh, hl⟩ := startsEscape_cons_cons.1 h
            obtain rfl := hnil hh
            simp [hhigh, hlow, hdigit.2 hh, hdigit'.2 hl]
      · rintro ⟨hlength, hall⟩
        rw [utf8_cons, hhigh, List.cons_append, List.take_succ_cons, List.all_cons,
          Bool.and_eq_true] at hall
        have hh := hdigit.1 hall.1
        obtain rfl := hnil hh
        match t with
        | [] => simp [hhigh] at hlength
        | low :: t =>
            obtain ⟨b', rest', hlow, hdigit', -⟩ := exists_utf8EncodeChar_eq_cons low
            have hl : Bytes.isHexDigit b' = true := by simpa [hlow] using hall.2
            exact startsEscape_cons_cons.2 ⟨hh, hdigit'.1 hl⟩

end Text

namespace Bytes

/-- The search looks for digits where the text has them. -/
theorem any_slice?_eq_false_iff (before : Bytes) (t : Text) :
    (slice? (before ++ Text.utf8 t) before.length (before.length + 2)).any (·.all isHexDigit)
        = false
      ↔ Text.escapedByte? t = none := by
  rw [slice?_append, ← not_iff_not, Bool.not_eq_false, ← ne_eq, Text.escapedByte?_ne_none_iff,
    Text.startsEscape_iff_take]
  by_cases hlength : 2 ≤ (Text.utf8 t).length
  · rw [if_pos hlength, Option.any_some]
    exact ⟨fun h => ⟨hlength, h⟩, fun h => h.2⟩
  · rw [if_neg hlength, Option.any_none]
    simp [hlength]

/-- The search from a character on.  The induction is on the text; the bytes before it stay part of
the windows. -/
theorem scanEscapesFrom_utf8 (before : Bytes) (t : Text) :
    scanEscapesFrom (before ++ Text.utf8 t) before.length (Text.utf8 t)
      = match Text.brokenEscape? t with
        | some rest => .broken ((Text.utf8 rest).take Query.escapeWindow)
        | none => .unbroken := by
  induction t generalizing before with
  | nil => rfl
  | cons c t ih =>
      have hnext := ih (before ++ String.utf8EncodeChar c)
      rw [List.append_assoc, ← Text.utf8_cons, List.length_append] at hnext
      rw [Text.brokenEscape?]
      by_cases hc : c = '%'
      · subst hc
        -- the windows begin with the percent sign and after it
        have hwindow := any_slice?_eq_false_iff (before ++ [0x25]) t
        have hshown := slice?_append_min before (Text.utf8 ('%' :: t)) Query.escapeWindow
        rw [List.append_assoc, List.length_append] at hwindow
        change scanEscapesFrom _ _ (0x25 :: Text.utf8 t) = _
        rw [scanEscapesFrom]
        by_cases hnone : Text.escapedByte? t = none
        · rw [if_pos ⟨rfl, hwindow.2 hnone⟩, if_pos ⟨rfl, hnone⟩, hshown]
        · rw [if_neg fun h => hnone (hwindow.1 h.2), if_neg fun h => hnone h.2]
          exact hnext
      · rw [if_neg fun h => hc h.1, ← hnext]
        exact scanEscapesFrom_append (Text.percent_notMem_utf8EncodeChar hc) before.length

/-- **The search in bytes finds the broken escape of the text, and never leaves the range.** -/
theorem scanEscapes_utf8 (t : Text) :
    scanEscapes (Text.utf8 t)
      = match Text.brokenEscape? t with
        | some rest => .broken ((Text.utf8 rest).take Query.escapeWindow)
        | none => .unbroken :=
  scanEscapesFrom_utf8 [] t

theorem scanEscapes_utf8_ne_outOfRange (t : Text) : scanEscapes (Text.utf8 t) ≠ .outOfRange := by
  rw [scanEscapes_utf8]
  cases Text.brokenEscape? t with
  | some rest => exact nofun
  | none => exact nofun

theorem scanEscapes_utf8_eq_unbroken_iff {t : Text} :
    scanEscapes (Text.utf8 t) = .unbroken ↔ Text.brokenEscape? t = none := by
  rw [scanEscapes_utf8]
  cases Text.brokenEscape? t with
  | some rest => simp
  | none => simp

/-- A text shows bytes as the characters that they make up, with one replacement character for bytes
that only begin another. -/
inductive ShownAs : Bytes → Text → Prop
  | whole (t : Text) : ShownAs (Text.utf8 t) t
  | cut (t : Text) {c : Char} {b : Bytes} : b ≠ [] → b <+: String.utf8EncodeChar c →
      b ≠ String.utf8EncodeChar c → ShownAs (Text.utf8 t ++ b) (t ++ ['\uFFFD'])

theorem ShownAs.cons {b : Bytes} {t : Text} (h : ShownAs b t) (c : Char) :
    ShownAs (String.utf8EncodeChar c ++ b) (c :: t) := by
  cases h with
  | whole => exact .whole (c :: t)
  | cut t hne hbegins hcut =>
      rw [← List.append_assoc, ← Text.utf8_cons, ← List.cons_append]
      exact .cut (c :: t) hne hbegins hcut

/-- The first bytes of a text are shown as its first characters. -/
theorem shownAs_takeBytesLossy (n : Nat) (t : Text) :
    ShownAs ((Text.utf8 t).take n) (Text.takeBytesLossy n t) := by
  induction t generalizing n with
  | nil =>
      rw [Text.utf8_nil, List.take_nil]
      cases n <;> exact .whole []
  | cons c t ih =>
      cases n with
      | zero => exact .whole []
      | succ n =>
          have hlength : (String.utf8EncodeChar c).length = c.utf8Size :=
            String.length_utf8EncodeChar c
          rw [Text.takeBytesLossy, Text.utf8_cons, List.take_append, hlength]
          split
          · next hle =>
              rw [List.take_of_length_le (hlength ▸ hle)]
              exact (ih _).cons c
          · next hlt =>
              have hzero : n + 1 - c.utf8Size = 0 := by omega
              rw [hzero, List.take_zero, List.append_nil]
              refine .cut [] (fun hnil => ?_) (List.take_prefix _ _) (fun hall => ?_)
              · have hsize := c.utf8Size_pos
                have htake := congrArg List.length hnil
                rw [List.length_take, hlength, List.length_nil] at htake
                omega
              · have htake := congrArg List.length hall
                rw [List.length_take, hlength] at htake
                omega

end Bytes

/-! ### Grammatical queries -/

namespace Query

/-- The queries that can be read. -/
structure Grammatical (query : Text) : Prop where
  /-- There is no semicolon. -/
  semicolon_notMem : ';' ∉ query
  /-- Two hexadecimal digits follow every percent sign. -/
  startsEscape : ∀ before after, query = before ++ '%' :: after → Text.StartsEscape after
  /-- What stands before the first equals sign of a segment, and what stands after it, is the text
  of UTF-8 when its escapes are decoded. -/
  decodes : ∀ segment ∈ query.splitOn '&', segment ≠ [] →
    (∃ t, Text.percentDecode (nameAndValue segment).1 = Text.utf8 t)
      ∧ ∃ t, Text.percentDecode (nameAndValue segment).2 = Text.utf8 t

theorem grammatical_iff_not_spoiled {query : Text} : Grammatical query ↔ ¬ Spoiled query := by
  constructor
  · rintro hgrammatical hspoiled
    cases hspoiled with
    | semicolon hmem => exact hgrammatical.semicolon_notMem hmem
    | brokenEscape heq hafter => exact hafter (hgrammatical.startsEscape _ _ heq)
    | @notUtf8 component hcomponent hinvalid =>
        obtain ⟨segment, hsegment, hmem⟩ := List.mem_flatMap.1 hcomponent
        have hdecodes : ∃ t, Text.percentDecode component = Text.utf8 t := by
          by_cases hnil : segment = []
          · -- a segment that says nothing has two empty components
            subst hnil
            obtain rfl : component = [] := by simpa [nameAndValue, Text.cut] using hmem
            exact ⟨[], rfl⟩
          · obtain ⟨hname, hvalue⟩ := hgrammatical.decodes segment hsegment hnil
            simp only [List.mem_cons, List.not_mem_nil, or_false] at hmem
            rcases hmem with rfl | rfl
            · exact hname
            · exact hvalue
        obtain ⟨t, ht⟩ := hdecodes
        exact hinvalid t ht
  · intro hread
    refine ⟨fun hmem => hread (.semicolon hmem), fun before after heq => ?_, ?_⟩
    · by_contra hafter
      exact hread (.brokenEscape heq hafter)
    · intro segment hsegment _
      have hcomponent : ∀ component ∈ [(nameAndValue segment).1, (nameAndValue segment).2],
          ∃ t, Text.percentDecode component = Text.utf8 t := by
        intro component hmem
        by_contra hinvalid
        exact hread (.notUtf8 (List.mem_flatMap.2 ⟨segment, hsegment, hmem⟩) fun t ht =>
          hinvalid ⟨t, ht⟩)
      exact ⟨hcomponent _ List.mem_cons_self,
        hcomponent _ (List.mem_cons_of_mem _ List.mem_cons_self)⟩

/-- **A query is read exactly when it is grammatical.**  Otherwise it is refused as a query.
Looking for broken escapes in its bytes stays in range, and where one is found, in a query without
semicolons, that is what is reported, with the bytes that show it. -/
theorem parse_accepts_grammatical (query : Text) :
    ((∃ parameters, parse query = .ok parameters) ↔ Grammatical query)
    ∧ (¬ Grammatical query → ∃ e, parse query = .error e ∧ e.kind = .malformedQuery)
    ∧ Bytes.scanEscapes (Text.utf8 query) ≠ .outOfRange
    ∧ (Bytes.scanEscapes (Text.utf8 query) = .unbroken
      ↔ ∀ before after, query = before ++ '%' :: after → Text.StartsEscape after)
    ∧ ∀ window, Bytes.scanEscapes (Text.utf8 query) = .broken window → ';' ∉ query →
      ∃ shown, parse query = .error (.brokenEscape shown query) ∧ Bytes.ShownAs window shown := by
  have hread : (∃ parameters, parse query = .ok parameters) ↔ Grammatical query := by
    rw [grammatical_iff_not_spoiled, ← exists_parse_eq_error_iff]
    cases parse query with
    | ok parameters => simp
    | error e => simp
  refine ⟨hread, ?_, Bytes.scanEscapes_utf8_ne_outOfRange query, ?_, ?_⟩
  · intro hnot
    cases hparse : parse query with
    | ok parameters => exact absurd (hread.1 ⟨parameters, hparse⟩) hnot
    | error e => exact ⟨e, rfl, kind_of_parse hparse⟩
  · rw [Bytes.scanEscapes_utf8_eq_unbroken_iff, ← not_iff_not, ← ne_eq,
      Text.brokenEscape?_ne_none_iff]
    simp only [not_forall, exists_prop]
  · intro window hwindow hsemicolon
    rw [Bytes.scanEscapes_utf8] at hwindow
    cases hbroken : Text.brokenEscape? query with
    | none =>
        rw [hbroken] at hwindow
        cases hwindow
    | some rest =>
        rw [hbroken] at hwindow
        obtain rfl := EscapeScan.broken.inj hwindow
        refine ⟨_, ?_, Bytes.shownAs_takeBytesLossy escapeWindow rest⟩
        rw [parse, if_neg (fun h => hsemicolon (List.contains_iff_mem.1 h)), hbroken]

end Query

end SharedKey
