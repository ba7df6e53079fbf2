/-
**Which queries can be read.**

A query is spoiled by a semicolon, by a percent sign that starts no escape, and by a name or value
that does not decode to text.  `Query.Spoiled` says so without the order in which the three are
looked for, and without the spaces that plus signs stand for: these change ASCII bytes for ASCII
bytes only, and no ASCII byte is part of the encoding of another character.

Main definitions:

* `Bytes.AsciiAlike` — byte sequences that differ in ASCII bytes only;
* `Text.IsHexDigit`, `Text.StartsEscape` — what follows the percent sign of an escape;
* `Query.Spoiled` — the queries that can not be read.

Main results:

* `Bytes.AsciiAlike.exists_utf8_iff` — of two such sequences both are UTF-8, or none is;
* `Query.exists_parse_eq_error_iff` — **reading a query fails exactly when it is spoiled**.
-/

import Mathlib.Data.List.Forall2
import SharedKey.Query

set_option relaxedAutoImplicit false
set_option autoImplicit false

namespace SharedKey

/-! ### ASCII bytes in UTF-8 -/

/-- Byte sequences of one length that differ in ASCII bytes only. -/
def Bytes.AsciiAlike : Bytes → Bytes → Prop :=
  List.Forall₂ fun a b => a = b ∨ (a.toNat < 0x80 ∧ b.toNat < 0x80)

/-- A character takes one ASCII byte, or several bytes none of which is ASCII. -/
theorem Text.utf8EncodeChar_cases (c : Char) :
    (∃ b : UInt8, b.toNat < 0x80 ∧ String.utf8EncodeChar c = [b])
      ∨ ∀ b ∈ String.utf8EncodeChar c, 0x80 ≤ b.toNat := by
  generalize hbytes : String.utf8EncodeChar c = bytes
  simp only [String.utf8EncodeChar] at hbytes
  split at hbytes
  · subst hbytes
    refine .inl ⟨_, ?_, rfl⟩
    rw [UInt8.toNat_ofNat']
    omega
  · refine .inr fun b hb => ?_
    -- a first byte is at least 0xc0, and every other one has its highest bit set
    split at hbytes
    · subst hbytes
      simp only [List.mem_cons, List.not_mem_nil, or_false] at hb
      rcases hb with rfl | rfl <;> rw [UInt8.toNat_ofNat'] <;> omega
    · split at hbytes
      · subst hbytes
        simp only [List.mem_cons, List.not_mem_nil, or_false] at hb
        rcases hb with rfl | rfl | rfl <;> rw [UInt8.toNat_ofNat'] <;> omega
      · subst hbytes
        simp only [List.mem_cons, List.not_mem_nil, or_false] at hb
        rcases hb with rfl | rfl | rfl | rfl <;> rw [UInt8.toNat_ofNat'] <;> omega

theorem Text.utf8EncodeChar_of_lt {c : Char} (h : c.toNat < 0x80) :
    ∃ b, b.toNat = c.toNat ∧ String.utf8EncodeChar c = [b] := by
  have hc : c.val.toNat ≤ 0x7f := Nat.le_of_lt_succ h
  refine ⟨UInt8.ofNat c.toNat, ?_, ?_⟩
  · rw [UInt8.toNat_ofNat']
    omega
  · simp only [String.utf8EncodeChar]
    rw [if_pos hc]
    rfl

theorem Text.exists_utf8EncodeChar_eq {b : UInt8} (h : b.toNat < 0x80) :
    ∃ c, c.toNat = b.toNat ∧ String.utf8EncodeChar c = [b] := by
  have hvalid : b.toNat.isValidChar := Or.inl (by omega)
  have hnat : (Char.ofNat b.toNat).toNat = b.toNat := by
    rw [Char.ofNat, dif_pos hvalid]
    rfl
  obtain ⟨b', hb', hsingle⟩ := utf8EncodeChar_of_lt (hnat.symm ▸ h)
  obtain rfl : b' = b := UInt8.toNat_inj.1 (hb'.trans hnat)
  exact ⟨_, hnat, hsingle⟩

namespace Bytes.AsciiAlike

theorem refl (b : Bytes) : AsciiAlike b b := List.forall₂_same.2 fun _ _ => .inl rfl

theorem symm {a b : Bytes} (h : AsciiAlike a b) : AsciiAlike b a := by
  refine List.Forall₂.flip (h.imp fun x y hxy => ?_)
  exact hxy.imp Eq.symm And.symm

theorem append {a a' b b' : Bytes} (h : AsciiAlike a b) (h' : AsciiAlike a' b') :
    AsciiAlike (a ++ a') (b ++ b') :=
  List.rel_append h h'

/-- Bytes that are not ASCII are kept. -/
theorem eq_append_of_append {a a' b : Bytes} (ha : ∀ x ∈ a, 0x80 ≤ x.toNat)
    (h : AsciiAlike (a ++ a') b) : ∃ b', b = a ++ b' ∧ AsciiAlike a' b' := by
  induction a generalizing b with
  | nil => exact ⟨b, rfl, h⟩
  | cons x a ih =>
      cases h with
      | @cons _ y _ b hxy hrest =>
          obtain ⟨b', rfl, hb'⟩ := ih (fun z hz => ha z (List.mem_cons_of_mem x hz)) hrest
          have hx := ha x List.mem_cons_self
          obtain rfl : x = y := hxy.resolve_right fun hascii => by omega
          exact ⟨b', rfl, hb'⟩

/-- What differs from UTF-8 in ASCII bytes only is UTF-8. -/
theorem exists_utf8 {t : Text} {b : Bytes} (h : AsciiAlike (Text.utf8 t) b) :
    ∃ t', b = Text.utf8 t' := by
  induction t generalizing b with
  | nil =>
      cases h
      exact ⟨[], rfl⟩
  | cons c t ih =>
      rw [Text.utf8_cons] at h
      rcases Text.utf8EncodeChar_cases c with ⟨x, hx, hsingle⟩ | hmany
      · rw [hsingle] at h
        cases h with
        | @cons _ y _ b hxy hrest =>
            obtain ⟨t', rfl⟩ := ih hrest
            have hy : y.toNat < 0x80 := by
              rcases hxy with rfl | ⟨-, hy⟩
              · exact hx
              · exact hy
            obtain ⟨d, -, hd⟩ := Text.exists_utf8EncodeChar_eq hy
            exact ⟨d :: t', by rw [Text.utf8_cons, hd]; rfl⟩
      · obtain ⟨b', rfl, hrest⟩ := eq_append_of_append hmany h
        obtain ⟨t', rfl⟩ := ih hrest
        exact ⟨c :: t', by rw [Text.utf8_cons]⟩

/-- Of two byte sequences that differ in ASCII bytes only, both are UTF-8 or none is. -/
theorem exists_utf8_iff {a b : Bytes} (h : AsciiAlike a b) :
    (∃ t, a = Text.utf8 t) ↔ ∃ t, b = Text.utf8 t := by
  constructor
  · rintro ⟨t, rfl⟩
    exact h.exists_utf8
  · rintro ⟨t, rfl⟩
    exact h.symm.exists_utf8

end Bytes.AsciiAlike

/-! ### Escapes -/

namespace Text

/-- A hexadecimal digit of either case. -/
def IsHexDigit (c : Char) : Prop :=
  ('0' ≤ c ∧ c ≤ '9') ∨ ('a' ≤ c ∧ c ≤ 'f') ∨ ('A' ≤ c ∧ c ≤ 'F')

instance : DecidablePred IsHexDigit := fun c =>
  inferInstanceAs (Decidable (('0' ≤ c ∧ c ≤ '9') ∨ ('a' ≤ c ∧ c ≤ 'f') ∨ ('A' ≤ c ∧ c ≤ 'F')))

/-- Whether two hexadecimal digits come first. -/
def StartsEscape (t : Text) : Prop :=
  ∃ high low rest, t = high :: low :: rest ∧ IsHexDigit high ∧ IsHexDigit low

theorem hexValue?_ne_none_iff {c : Char} : hexValue? c ≠ none ↔ IsHexDigit c := by
  have hle : ∀ a b : Char, a ≤ b ↔ a.toNat ≤ b.toNat := fun a b => UInt32.le_iff_toNat_le
  simp only [IsHexDigit, hle, hexValue?]
  split
  · next hdigit => exact ⟨fun _ => .inl hdigit, fun _ => Option.some_ne_none _⟩
  · next hdigit =>
      split
      · next hlower => exact ⟨fun _ => .inr (.inl hlower), fun _ => Option.some_ne_none _⟩
      · next hlower =>
          split
          · next hupper => exact ⟨fun _ => .inr (.inr hupper), fun _ => Option.some_ne_none _⟩
          · next hupper =>
              refine ⟨fun h => absurd rfl h, ?_⟩
              rintro (h | h | h)
              · exact absurd h hdigit
              · exact absurd h hlower
              · exact absurd h hupper

/-- A byte is escaped where two hexadecimal digits come first. -/
theorem escapedByte?_ne_none_iff {t : Text} : escapedByte? t ≠ none ↔ StartsEscape t := by
  constructor
  · intro h
    unfold escapedByte? at h
    split at h
    · next high low rest =>
        refine ⟨high, low, rest, rfl, hexValue?_ne_none_iff.1 ?_, hexValue?_ne_none_iff.1 ?_⟩
        · intro hhigh
          simp [hhigh] at h
        · intro hlow
          simp [hlow] at h
    · exact absurd rfl h
  · rintro ⟨high, low, rest, rfl, hhigh, hlow⟩
    obtain ⟨x, hx⟩ := Option.ne_none_iff_exists'.1 (hexValue?_ne_none_iff.2 hhigh)
    obtain ⟨y, hy⟩ := Option.ne_none_iff_exists'.1 (hexValue?_ne_none_iff.2 hlow)
    simp [escapedByte?, hx, hy]

/-- A broken escape is a percent sign after which no escape starts. -/
theorem brokenEscape?_ne_none_iff {t : Text} :
    brokenEscape? t ≠ none ↔ ∃ before after, t = before ++ '%' :: after ∧ ¬ StartsEscape after := by
  induction t with
  | nil => simp [brokenEscape?]
  | cons c t ih =>
      rw [brokenEscape?]
      by_cases hc : c = '%' ∧ escapedByte? t = none
      · obtain ⟨rfl, hnone⟩ := hc
        rw [if_pos ⟨rfl, hnone⟩]
        refine ⟨fun _ => ⟨[], t, rfl, ?_⟩, fun _ => Option.some_ne_none _⟩
        exact fun hstarts => escapedByte?_ne_none_iff.2 hstarts hnone
      · rw [if_neg hc, ih]
        constructor
        · rintro ⟨before, after, rfl, hafter⟩
          exact ⟨c :: before, after, rfl, hafter⟩
        · rintro ⟨before, after, heq, hafter⟩
          cases before with
          | nil =>
              obtain ⟨rfl, rfl⟩ := List.cons.inj heq
              refine absurd ⟨rfl, ?_⟩ hc
              by_contra hsome
              exact hafter (escapedByte?_ne_none_iff.1 hsome)
          | cons d before =>
              obtain ⟨-, rfl⟩ := List.cons.inj heq
              exact ⟨before, after, rfl, hafter⟩

end Text

/-! ### Names and values -/

namespace Query

theorem hexValue?_plusToSpace (c : Char) :
    Text.hexValue? (if c = '+' then ' ' else c) = Text.hexValue? c := by
  split
  · next heq =>
      subst heq
      rfl
  · rfl

theorem escapedByte?_plusToSpace (t : Text) :
    Text.escapedByte? (plusToSpace t) = Text.escapedByte? t := by
  match t with
  | [] => rfl
  | [_] => rfl
  | high :: low :: rest =>
      simp only [plusToSpace, List.map_cons, Text.escapedByte?]
      rw [hexValue?_plusToSpace, hexValue?_plusToSpace]

/-- Writing spaces for plus signs changes ASCII bytes only.  The induction keeps the number of
digits that are still to be skipped, since no plus sign is among them. -/
theorem asciiAlike_percentDecodeFrom (skip : Nat) (t : Text) :
    Bytes.AsciiAlike (Text.percentDecodeFrom skip t)
      (Text.percentDecodeFrom skip (plusToSpace t)) := by
  induction t generalizing skip with
  | nil => cases skip <;> exact .nil
  | cons c t ih =>
      cases skip with
      | succ skip => exact ih skip
      | zero =>
          have hmap : plusToSpace (c :: t) = (if c = '+' then ' ' else c) :: plusToSpace t := rfl
          rw [hmap]
          by_cases hplus : c = '+'
          · subst hplus
            rw [if_pos rfl]
            exact .cons (.inr (by decide)) (ih 0)
          · rw [if_neg hplus, Text.percentDecodeFrom, Text.percentDecodeFrom,
              escapedByte?_plusToSpace]
            split
            · split
              · exact .cons (.inl rfl) (ih 2)
              · exact .append (.refl _) (ih 0)
            · exact .append (.refl _) (ih 0)

/-- A name or value is refused exactly when what it stands for is not UTF-8. -/
theorem exists_decodeComponent_eq_error_iff {component : Text} :
    (∃ e, decodeComponent component = .error e)
      ↔ ∀ t, Text.percentDecode component ≠ Text.utf8 t := by
  have halike := (asciiAlike_percentDecodeFrom 0 component).exists_utf8_iff
  rw [← not_exists, Text.percentDecode, halike]
  simp only [decodeComponent, Text.percentDecode]
  cases hdecode : Text.ofUtf8? (Text.percentDecodeFrom 0 (plusToSpace component)) with
  | some t => simp [Text.ofUtf8?_eq_some_iff.1 hdecode]
  | none =>
      simp only [Except.error.injEq, exists_eq', true_iff]
      rintro ⟨t, ht⟩
      rw [ht, Text.ofUtf8?_utf8] at hdecode
      cases hdecode

theorem exists_decodeSegment_eq_error_iff {segment : Text} :
    (∃ e, decodeSegment segment = .error e)
      ↔ (∃ e, decodeComponent (nameAndValue segment).1 = .error e)
        ∨ ∃ e, decodeComponent (nameAndValue segment).2 = .error e := by
  simp only [decodeSegment]
  cases decodeComponent (nameAndValue segment).1 with
  | error e => simp
  | ok name =>
      cases decodeComponent (nameAndValue segment).2 with
      | error e => simp
      | ok value => simp

/-- The names and values of a query: what stands before and after the first equals sign between two
ampersands. -/
def components (query : Text) : List Text :=
  (query.splitOn '&').flatMap fun segment => [(nameAndValue segment).1, (nameAndValue segment).2]

/-- Segments that say nothing are not refused, so leaving them out does not matter. -/
theorem exists_mapM_segments_eq_error_iff {query : Text} :
    (∃ e, (segments query).mapM decodeSegment = .error e)
      ↔ ∃ component ∈ components query, ∀ t, Text.percentDecode component ≠ Text.utf8 t := by
  rw [Fallible.exists_mapM_eq_error_iff]
  simp only [exists_decodeSegment_eq_error_iff, exists_decodeComponent_eq_error_iff]
  constructor
  · rintro ⟨segment, hsegment, hcomponent⟩
    have hsplit := (List.mem_filter.1 hsegment).1
    rcases hcomponent with hname | hvalue
    · exact ⟨_, List.mem_flatMap.2 ⟨segment, hsplit, List.mem_cons_self⟩, hname⟩
    · exact ⟨_, List.mem_flatMap.2 ⟨segment, hsplit, List.mem_cons_of_mem _ List.mem_cons_self⟩,
        hvalue⟩
  · rintro ⟨component, hcomponent, hinvalid⟩
    obtain ⟨segment, hsplit, hmem⟩ := List.mem_flatMap.1 hcomponent
    refine ⟨segment, List.mem_filter.2 ⟨hsplit, ?_⟩, ?_⟩
    · cases segment with
      | cons c segment => rfl
      | nil =>
          -- both components are empty, and the empty text is its own decoding
          obtain rfl : component = [] := by simpa [nameAndValue, Text.cut] using hmem
          exact absurd rfl (hinvalid [])
    · simp only [List.mem_cons, List.not_mem_nil, or_false] at hmem
      rcases hmem with rfl | rfl
      · exact .inl hinvalid
      · exact .inr hinvalid

/-- The queries that can not be read. -/
inductive Spoiled (query : Text) : Prop
  | semicolon : ';' ∈ query → Spoiled query
  | brokenEscape {before after : Text} :
      query = before ++ '%' :: after → ¬ Text.StartsEscape after → Spoiled query
  | notUtf8 {component : Text} :
      component ∈ components query → (∀ t, Text.percentDecode component ≠ Text.utf8 t) →
      Spoiled query

/-- **Reading a query fails exactly when it is spoiled.** -/
theorem exists_parse_eq_error_iff {query : Text} :
    (∃ e, parse query = .error e) ↔ Spoiled query := by
  rw [parse]
  by_cases hsemicolon : ';' ∈ query
  · rw [if_pos (List.contains_iff_mem.2 hsemicolon)]
    exact ⟨fun _ => .semicolon hsemicolon, fun _ => ⟨_, rfl⟩⟩
  · rw [if_neg (fun h => hsemicolon (List.contains_iff_mem.1 h))]
    cases hbroken : Text.brokenEscape? query with
    | some rest =>
        have hne : Text.brokenEscape? query ≠ none := by
          rw [hbroken]
          exact Option.some_ne_none rest
        obtain ⟨before, after, heq, hafter⟩ := Text.brokenEscape?_ne_none_iff.1 hne
        exact ⟨fun _ => .brokenEscape heq hafter, fun _ => ⟨_, rfl⟩⟩
    | none =>
        simp only [exists_mapM_segments_eq_error_iff]
        constructor
        · rintro ⟨component, hcomponent, hinvalid⟩
          exact .notUtf8 hcomponent hinvalid
        · intro hspoiled
          cases hspoiled with
          | semicolon h => exact absurd h hsemicolon
          | brokenEscape heq hafter =>
              exact absurd hbroken (Text.brokenEscape?_ne_none_iff.2 ⟨_, _, heq, hafter⟩)
          | notUtf8 hcomponent hinvalid => exact ⟨_, hcomponent, hinvalid⟩

end Query

end SharedKey
