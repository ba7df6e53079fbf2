/-
**A field is found under every spelling of its name, and every listed field is found.**

A field is asked for by a text, and two texts ask for the same field when they differ only in the
letter case of ASCII letters and in the blanks around them.  Normalizing forgets these differences
and no others.  The names in a header map are normalized as they stand, so listing the fields that
begin with a text may look each of them up again: a lookup that misses would be answered with the
empty text, and there is none that misses.

Main definitions:

* `Text.SameLetter` — the same character, or a capital and its small letter;
* `Text.SpelledAlike` — texts that differ in letter case and in blanks around them;
* `HeaderMap.firstValues` — the names that begin with a text, with their first values.

Main results:

* `Text.lowercase_eq_iff`, `FieldName.normalize_eq_iff` — **normalizing forgets letter case and
  blanks, and nothing else**;
* `FieldName.normalize_normalize` — normalizing twice is normalizing once;
* `HeaderMap.lookup_of_first?` — a name that has a value is found;
* `HeaderMap.withPrefix_eq_mapM_firstValues` — listing reads the first values that are there;
* `HeaderMap.lookup_consistent_with_normalize` — **all of this together**.
-/

import Mathlib.Data.List.Forall2
import SharedKey.Proofs.ServiceFields

set_option relaxedAutoImplicit false
set_option autoImplicit false

namespace SharedKey

namespace Text

/-! ### Letter case -/

/-- The same character, or a capital ASCII letter and its small letter. -/
inductive SameLetter : Char → Char → Prop
  | same (c : Char) : SameLetter c c
  /-- The letter number `n`, as a capital and small. -/
  | capitalSmall {n : Nat} : n < 26 → SameLetter (Char.ofNat (65 + n)) (Char.ofNat (97 + n))
  /-- The letter number `n`, small and as a capital. -/
  | smallCapital {n : Nat} : n < 26 → SameLetter (Char.ofNat (97 + n)) (Char.ofNat (65 + n))

/-- Two characters are the same letter exactly when they have one lowercase. -/
theorem sameLetter_iff {c d : Char} : SameLetter c d ↔ c.toLower = d.toLower := by
  constructor
  · intro h
    have hpair : ∀ n < 26, (Char.ofNat (65 + n)).toLower = (Char.ofNat (97 + n)).toLower := by
      decide
    cases h with
    | same => rfl
    | capitalSmall hn => exact hpair _ hn
    | smallCapital hn => exact (hpair _ hn).symm
  · intro h
    have hinj : ∀ m < 26, ∀ n < 26, Char.ofNat (97 + m) = Char.ofNat (97 + n) → m = n := by decide
    -- each of the two is its own lowercase or a capital
    rcases toLower_cases c with hc | ⟨m, hm, rfl, hc⟩
    · rcases toLower_cases d with hd | ⟨n, hn, rfl, hd⟩
      · obtain rfl : c = d := hc.symm.trans (h.trans hd)
        exact .same c
      · obtain rfl : c = Char.ofNat (97 + n) := hc.symm.trans (h.trans hd)
        exact .smallCapital hn
    · rcases toLower_cases d with hd | ⟨n, hn, rfl, hd⟩
      · obtain rfl : Char.ofNat (97 + m) = d := hc.symm.trans (h.trans hd)
        exact .capitalSmall hm
      · obtain rfl : m = n := hinj m hm n hn (hc.symm.trans (h.trans hd))
        exact .same _

/-- Two texts have one lowercase exactly when they are the same letters. -/
theorem lowercase_eq_iff {s t : Text} :
    lowercase s = lowercase t ↔ List.Forall₂ SameLetter s t := by
  have hrelation : SameLetter = fun c d => c.toLower = d.toLower := by
    funext c d
    exact propext sameLetter_iff
  rw [hrelation, lowercase, lowercase, ← List.forall₂_eq_eq_eq, List.forall₂_map_left_iff,
    List.forall₂_map_right_iff]

/-- The same letters between blanks. -/
inductive SpelledAlike : Text → Text → Prop
  | intro {before middle after before' middle' after' : Text} :
      AllBlank before → AllBlank after → AllBlank before' → AllBlank after' →
      List.Forall₂ SameLetter middle middle' →
      SpelledAlike (before ++ middle ++ after) (before' ++ middle' ++ after')

end Text

/-! ### Normalizing -/

namespace FieldName

/-- Normalizing forgets letter case and the blanks around a text, and nothing else. -/
theorem normalize_eq_iff {s t : Text} : normalize s = normalize t ↔ Text.SpelledAlike s t := by
  constructor
  · intro h
    obtain ⟨before, after, hbefore, hafter, hs⟩ := Text.exists_eq_append_trim s
    obtain ⟨before', after', hbefore', hafter', ht⟩ := Text.exists_eq_append_trim t
    rw [hs, ht]
    exact .intro hbefore hafter hbefore' hafter' (Text.lowercase_eq_iff.1 h)
  · rintro ⟨hbefore, hafter, hbefore', hafter', hmiddle⟩
    rw [normalize, normalize, Text.trim_append hbefore hafter, Text.trim_append hbefore' hafter',
      ← Text.trim_lowercase, ← Text.trim_lowercase, Text.lowercase_eq_iff.2 hmiddle]

/-- Normalizing twice is normalizing once. -/
@[simp] theorem normalize_normalize (t : Text) : normalize (normalize t) = normalize t := by
  rw [normalize, normalize, Text.trim_lowercase, Text.trim_trim, Text.lowercase_lowercase]

end FieldName

/-- A value is read as its text. -/
theorem FieldValue.read_eq_ok_iff {v : FieldValue} {t : Text} :
    v.read = .ok t ↔ v.text? = some t := by
  rw [read]
  cases v.text? with
  | none => simp
  | some s => simp

namespace HeaderMap

/-! ### Looking up -/

/-- A field is found under every spelling of its name. -/
theorem lookup_of_spelledAlike (headers : HeaderMap) {key key' : Text}
    (h : Text.SpelledAlike key key') : headers.lookup key = headers.lookup key' := by
  rw [lookup, lookup, FieldName.normalize_eq_iff.2 h]

/-- A name that has a first value is looked up as that value. -/
theorem lookup_of_first? {headers : HeaderMap} {name : FieldName} {value : FieldValue}
    (h : headers.first? name = some value) :
    headers.lookup (FieldName.normalize name.text) = value.read.map some := by
  rw [FieldName.normalize_text, lookup_text, h]

/-- Where there is a first value, no default is needed. -/
theorem lookupOrEmpty_of_first? {headers : HeaderMap} {name : FieldName} {value : FieldValue}
    (h : headers.first? name = some value) :
    headers.lookupOrEmpty name.text = value.read := by
  rw [lookupOrEmpty, lookup_text, h]
  cases hread : value.read with
  | error e => simp [hread, Except.map]
  | ok t => simp [hread, Except.map]

/-- A name that is listed has a first value. -/
theorem exists_first?_of_mem_names {headers : HeaderMap} {name : FieldName}
    (h : name ∈ headers.names) : ∃ value, headers.first? name = some value :=
  Option.isSome_iff_exists.1 (List.isSome_head?.2 (mem_names.1 h))

/-! ### Listing -/

/-- The names that begin with `start`, with the first values that the fields have for them. -/
def firstValues (headers : HeaderMap) (start : Text) : List (FieldName × FieldValue) :=
  (headers.namesWithPrefix start).filterMap fun name =>
    (headers.first? name).map fun value => (name, value)

theorem first?_of_mem_firstValues {headers : HeaderMap} {start : Text}
    {field : FieldName × FieldValue} (h : field ∈ headers.firstValues start) :
    headers.first? field.1 = some field.2 := by
  obtain ⟨name, -, hname⟩ := List.mem_filterMap.1 h
  obtain ⟨value, hvalue, rfl⟩ := Option.map_eq_some_iff.1 hname
  exact hvalue

/-- No name is left out, as each of them has a value. -/
theorem map_fst_firstValues (headers : HeaderMap) (start : Text) :
    (headers.firstValues start).map Prod.fst = headers.namesWithPrefix start := by
  rw [firstValues, List.map_filterMap]
  refine (List.filterMap_congr fun name hname => ?_).trans List.filterMap_some
  obtain ⟨value, hvalue⟩ := exists_first?_of_mem_names (List.mem_of_mem_filter hname)
  rw [hvalue]
  rfl

/-- Listing reads the first values that are there, and no default. -/
theorem withPrefix_eq_mapM_firstValues (headers : HeaderMap) (start : Text) :
    headers.withPrefix start = (headers.firstValues start).mapM fun field =>
      field.2.read.map fun t => (field.1.text, t) := by
  rw [withPrefix_eq, ← map_fst_firstValues, List.mapM_map]
  refine Fallible.mapM_congr fun field hfield => ?_
  rw [Function.comp_apply, lookupOrEmpty_of_first? (first?_of_mem_firstValues hfield)]

/-- A listed value takes the bytes of a first value that is there. -/
theorem exists_of_mem_withPrefix {headers : HeaderMap} {start : Text} {pairs : List (Text × Text)}
    (h : headers.withPrefix start = .ok pairs) {pair : Text × Text} (hpair : pair ∈ pairs) :
    ∃ field ∈ headers.firstValues start,
      pair.1 = field.1.text ∧ Text.utf8 pair.2 = field.2.bytes := by
  rw [withPrefix_eq_mapM_firstValues] at h
  obtain ⟨field, hfield, hread⟩ := Fallible.exists_of_mem_of_mapM_eq_ok h hpair
  obtain ⟨t, ht, rfl⟩ := Fallible.map_eq_ok_iff.1 hread
  exact ⟨field, hfield, rfl, FieldValue.utf8_of_text? (FieldValue.read_eq_ok_iff.1 ht)⟩

/-- **Looking up is consistent with normalizing.**  Normalizing forgets letter case and the blanks
around a text, and nothing else, so a field is found, missing or opaque alike under every spelling
of its name; normalizing twice is normalizing once, and it changes no name that a header map holds.
So every name that has a value is found when it is looked up again, listing reads the first values
that are there and no default, and each value is listed with its bytes: an empty one exactly for a
first value that has none. -/
theorem lookup_consistent_with_normalize :
    (∀ (headers : HeaderMap) (key key' : Text), Text.SpelledAlike key key' →
      headers.lookup key = headers.lookup key')
    ∧ (∀ key key', FieldName.normalize key = FieldName.normalize key'
      ↔ Text.SpelledAlike key key')
    ∧ (∀ key, FieldName.normalize (FieldName.normalize key) = FieldName.normalize key)
    ∧ (∀ name : FieldName, FieldName.normalize name.text = name.text)
    ∧ (∀ (headers : HeaderMap), ∀ name ∈ headers.names, ∃ value,
      headers.first? name = some value
        ∧ headers.lookup (FieldName.normalize name.text) = value.read.map some)
    ∧ ∀ (headers : HeaderMap) (start : Text),
      (headers.firstValues start).map Prod.fst = headers.namesWithPrefix start
      ∧ headers.withPrefix start = ((headers.firstValues start).mapM fun field =>
        field.2.read.map fun t => (field.1.text, t))
      ∧ ∀ pairs, headers.withPrefix start = .ok pairs → ∀ pair ∈ pairs, ∃ name value,
        pair.1 = name.text ∧ headers.first? name = some value
          ∧ Text.utf8 pair.2 = value.bytes ∧ (pair.2 = [] ↔ value.bytes = []) := by
  refine ⟨fun headers key key' h => headers.lookup_of_spelledAlike h,
    fun key key' => FieldName.normalize_eq_iff, FieldName.normalize_normalize,
    FieldName.normalize_text, ?_, ?_⟩
  · intro headers name hname
    obtain ⟨value, hvalue⟩ := exists_first?_of_mem_names hname
    exact ⟨value, hvalue, lookup_of_first? hvalue⟩
  · intro headers start
    refine ⟨headers.map_fst_firstValues start, headers.withPrefix_eq_mapM_firstValues start, ?_⟩
    intro pairs h pair hpair
    obtain ⟨⟨name, value⟩, hfield, hname, hbytes⟩ := exists_of_mem_withPrefix h hpair
    refine ⟨name, value, hname, first?_of_mem_firstValues hfield, hbytes, ?_⟩
    rw [← hbytes]
    exact ⟨fun h => h ▸ rfl, fun h => Text.utf8_injective h⟩

/-- A length, and a date without bytes. -/
def emptyDated : HeaderMap :=
  ⟨[(FieldName.contentLength, ⟨[0x30], false, rfl⟩), (FieldName.xMsDate, ⟨[], false, rfl⟩)]⟩

/-- The empty date is found between blanks and in capitals, and is listed as it is. -/
theorem lookup_consistent_with_normalize_emptyDated :
    Text.SpelledAlike "\u3000X-MS-Date\t".toList "x-ms-date".toList
      ∧ emptyDated.lookup "\u3000X-MS-Date\t".toList = .ok (some [])
      ∧ emptyDated.withPrefix FieldName.servicePrefix = .ok [("x-ms-date".toList, [])]
      ∧ ∃ name value, "x-ms-date".toList = name.text ∧ emptyDated.first? name = some value
        ∧ value.bytes = [] := by
  obtain ⟨hspelled, hnormalize, -, -, hfound, hlisted⟩ := lookup_consistent_with_normalize
  have halike : Text.SpelledAlike "\u3000X-MS-Date\t".toList "x-ms-date".toList :=
    (hnormalize _ _).1 (by decide)
  have hpairs : emptyDated.withPrefix FieldName.servicePrefix = .ok [("x-ms-date".toList, [])] := by
    decide
  refine ⟨halike, ?_, hpairs, ?_⟩
  · obtain ⟨value, hvalue, hlookup⟩ := hfound emptyDated FieldName.xMsDate (by decide)
    obtain rfl : (⟨[], false, rfl⟩ : FieldValue) = value := Option.some.inj hvalue
    rw [hspelled emptyDated _ _ halike]
    exact hlookup
  · obtain ⟨-, -, hvalues⟩ := hlisted emptyDated FieldName.servicePrefix
    obtain ⟨name, value, hname, hvalue, -, hempty⟩ := hvalues _ hpairs _ List.mem_cons_self
    exact ⟨name, value, hname, hvalue, hempty.1 rfl⟩

end HeaderMap

end SharedKey
