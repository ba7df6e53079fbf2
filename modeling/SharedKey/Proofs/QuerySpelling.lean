/-
**Decoding undoes every spelling of a query.**

There are many ways to write down given parameters: a character can be escaped byte by byte, with
digits of either case, or stand for itself; a space can be a plus sign; a name without a value needs
no equals sign; and segments that say nothing can be put in anywhere.  `Query.Spells` admits all of
them, for names and values of any characters.  Whatever the spelling, the parameters are read back
as they were given, in their order, and so a resource tells nothing of it.

Splitting at ampersands and at the first equals sign comes before decoding, so a spelling is safe as
soon as its literal characters are not the separators; and plus signs are replaced before escapes
are decoded, so an escaped plus sign stays one.

Main definitions:

* `Query.Escapes` — bytes as escapes;
* `Query.SpellsChar`, `Query.SpellsText` — the spellings of a character and of a text;
* `Query.SpellsSegment`, `Query.SpellsSegments`, `Query.Spells` — those of parameters.

Main results:

* `Query.SpellsText.decodeComponent_eq` — a name or value is read back from its spelling;
* `Query.parse_of_spells` — **parameters are read back from every spelling**;
* `Query.Spells.read_back` — **two spellings of one list of parameters have one resource**.
-/

import SharedKey.Proofs.QueryOrder

set_option relaxedAutoImplicit false
set_option autoImplicit false

namespace SharedKey

/-- A digit of either case has the value of the small one. -/
theorem Text.hexValue?_of_toLower {c : Char} {n : Nat} (hn : n < 16)
    (h : c.toLower = Nat.digitChar n) : Text.hexValue? c = some n := by
  have hdigits : ∀ m < 16, (Nat.digitChar m).toNat < 128 := by decide
  -- the ASCII characters are gone through; any other is its own lowercase, and so no digit
  have hall : ∀ k < 128, ∀ m < 16, (Char.ofNat k).toLower = Nat.digitChar m →
      Text.hexValue? (Char.ofNat k) = some m := by
    decide +kernel
  by_cases hc : c.toNat < 128
  · have hchar := hall c.toNat hc n hn
    rw [Char.ofNat_toNat] at hchar
    exact hchar h
  · rw [Text.toLower_of_le (Nat.not_lt.1 hc)] at h
    exact absurd (h ▸ hdigits n hn) hc

namespace Query

/-! ### Spellings -/

/-- Bytes as escapes, with digits of either case. -/
inductive Escapes : Bytes → Text → Prop
  | nil : Escapes [] []
  | cons {b : UInt8} {bytes : Bytes} {high low : Char} {written : Text} :
      high.toLower = Nat.digitChar (b.toNat / 16) → low.toLower = Nat.digitChar (b.toNat % 16) →
      Escapes bytes written → Escapes (b :: bytes) ('%' :: high :: low :: written)

/-- The spellings of a character, where the characters in `marks` do not stand for themselves. -/
inductive SpellsChar (marks : List Char) : Char → Text → Prop
  | escaped {c : Char} {written : Text} :
      Escapes (String.utf8EncodeChar c) written → SpellsChar marks c written
  | plus : SpellsChar marks ' ' ['+']
  | literal {c : Char} : c ∉ marks → SpellsChar marks c [c]

/-- The spellings of a text, character by character. -/
inductive SpellsText (marks : List Char) : Text → Text → Prop
  | nil : SpellsText marks [] []
  | cons {c : Char} {t written rest : Text} :
      SpellsChar marks c written → SpellsText marks t rest →
      SpellsText marks (c :: t) (written ++ rest)

/-- The characters that do not stand for themselves in a value. -/
def valueMarks : List Char := ['%', '+', '&', ';']

/-- The characters that do not stand for themselves in a name. -/
def nameMarks : List Char := '=' :: valueMarks

/-- The spellings of a parameter; an empty value may be left out, unless the name is empty too. -/
inductive SpellsSegment : Text × Text → Text → Prop
  | pair {name value written written' : Text} :
      SpellsText nameMarks name written → SpellsText valueMarks value written' →
      SpellsSegment (name, value) (written ++ '=' :: written')
  | bare {name written : Text} :
      name ≠ [] → SpellsText nameMarks name written → SpellsSegment (name, []) written

/-- The spellings of parameters in their order, with segments that say nothing between them. -/
inductive SpellsSegments : Parameters → List Text → Prop
  | nil : SpellsSegments [] []
  | empty {parameters : Parameters} {segments : List Text} :
      SpellsSegments parameters segments → SpellsSegments parameters ([] :: segments)
  | cons {parameter : Text × Text} {segment : Text} {parameters : Parameters}
      {segments : List Text} :
      SpellsSegment parameter segment → SpellsSegments parameters segments →
      SpellsSegments (parameter :: parameters) (segment :: segments)

/-- The queries that give these parameters. -/
def Spells (parameters : Parameters) (query : Text) : Prop :=
  ∃ segments, SpellsSegments parameters segments ∧ query = Text.join ['&'] segments

/-! ### Escapes -/

theorem plusToSpace_cons (c : Char) (t : Text) :
    plusToSpace (c :: t) = (if c = '+' then ' ' else c) :: plusToSpace t := rfl

namespace Escapes

variable {bytes : Bytes} {written : Text}

/-- The digits of an escape have the values of its byte. -/
theorem hexValue?_digits {b : UInt8} {high low : Char}
    (hhigh : high.toLower = Nat.digitChar (b.toNat / 16))
    (hlow : low.toLower = Nat.digitChar (b.toNat % 16)) :
    Text.hexValue? high = some (b.toNat / 16) ∧ Text.hexValue? low = some (b.toNat % 16) := by
  have hb := b.toNat_lt
  exact ⟨Text.hexValue?_of_toLower (by omega) hhigh, Text.hexValue?_of_toLower (by omega) hlow⟩

theorem percentDecode_append (h : Escapes bytes written) (rest : Text) :
    Text.percentDecode (plusToSpace (written ++ rest))
      = bytes ++ Text.percentDecode (plusToSpace rest) := by
  induction h with
  | nil => rfl
  | @cons b bytes high low written hhigh hlow _ ih =>
      obtain ⟨hx, hy⟩ := hexValue?_digits hhigh hlow
      rw [← hexValue?_plusToSpace] at hx hy
      have hbyte : UInt8.ofNat (16 * (b.toNat / 16) + b.toNat % 16) = b := by
        rw [Nat.div_add_mod, UInt8.ofNat_toNat]
      rw [List.cons_append, List.cons_append, List.cons_append, plusToSpace_cons,
        if_neg (by decide), plusToSpace_cons, plusToSpace_cons, Text.percentDecode_escape hx hy, ih,
        hbyte, List.cons_append]

theorem brokenEscape?_append (h : Escapes bytes written) (rest : Text) :
    Text.brokenEscape? (written ++ rest) = Text.brokenEscape? rest := by
  induction h with
  | nil => rfl
  | @cons b bytes high low written hhigh hlow _ ih =>
      obtain ⟨hx, hy⟩ := hexValue?_digits hhigh hlow
      have hne : ∀ {c : Char} {n : Nat}, Text.hexValue? c = some n → c ≠ '%' := by
        rintro c n hc rfl
        cases hc
      simp [Text.brokenEscape?, Text.escapedByte?, hx, hy, hne hx, hne hy, ih]

/-- Escapes hold percent signs and digits only. -/
theorem eq_or_hexValue?_ne_none (h : Escapes bytes written) {c : Char} (hc : c ∈ written) :
    c = '%' ∨ Text.hexValue? c ≠ none := by
  induction h with
  | nil => cases hc
  | @cons b bytes high low written hhigh hlow _ ih =>
      obtain ⟨hx, hy⟩ := hexValue?_digits hhigh hlow
      simp only [List.mem_cons] at hc
      rcases hc with rfl | rfl | rfl | hc
      · exact .inl rfl
      · exact .inr (hx ▸ Option.some_ne_none _)
      · exact .inr (hy ▸ Option.some_ne_none _)
      · exact ih hc

end Escapes

/-! ### Characters and texts -/

/-- The characters at which a query is split, and the one that spoils it. -/
def separators : List Char := ['&', ';', '=']

/-- No separator is part of an escape, and none stands for a space. -/
theorem separator_spec {sep : Char} (h : sep ∈ separators) :
    sep ≠ '%' ∧ sep ≠ '+' ∧ Text.hexValue? sep = none := by
  simp only [separators, List.mem_cons, List.not_mem_nil, or_false] at h
  rcases h with rfl | rfl | rfl
  · decide
  · decide
  · decide

variable {marks : List Char} {c : Char} {t written rest : Text}

namespace SpellsChar

theorem percentDecode_append (hmarks : valueMarks ⊆ marks) (h : SpellsChar marks c written)
    (rest : Text) :
    Text.percentDecode (plusToSpace (written ++ rest))
      = String.utf8EncodeChar c ++ Text.percentDecode (plusToSpace rest) := by
  cases h with
  | escaped h => exact h.percentDecode_append rest
  | plus => rfl
  | literal hc =>
      have hpercent : c ≠ '%' := fun heq => hc (hmarks (heq ▸ by decide))
      have hplus : c ≠ '+' := fun heq => hc (hmarks (heq ▸ by decide))
      rw [List.singleton_append, plusToSpace_cons, if_neg hplus,
        Text.percentDecode_cons_of_ne hpercent]

theorem brokenEscape?_append (hmarks : valueMarks ⊆ marks) (h : SpellsChar marks c written)
    (rest : Text) : Text.brokenEscape? (written ++ rest) = Text.brokenEscape? rest := by
  cases h with
  | escaped h => exact h.brokenEscape?_append rest
  | plus => rfl
  | literal hc =>
      have hpercent : c ≠ '%' := fun heq => hc (hmarks (heq ▸ by decide))
      rw [List.singleton_append, Text.brokenEscape?, if_neg fun h => hpercent h.1]

/-- A separator that has to be escaped does not occur. -/
theorem separator_notMem (h : SpellsChar marks c written) {sep : Char} (hmark : sep ∈ marks)
    (hsep : sep ∈ separators) : sep ∉ written := by
  obtain ⟨hpercent, hplus, hdigit⟩ := separator_spec hsep
  intro hmem
  cases h with
  | escaped h =>
      rcases h.eq_or_hexValue?_ne_none hmem with heq | hvalue
      · exact hpercent heq
      · exact hvalue hdigit
  | plus => exact hplus (List.mem_singleton.1 hmem)
  | literal hc => exact hc (List.mem_singleton.1 hmem ▸ hmark)

end SpellsChar

namespace SpellsText

theorem percentDecode_eq (hmarks : valueMarks ⊆ marks) (h : SpellsText marks t written) :
    Text.percentDecode (plusToSpace written) = Text.utf8 t := by
  induction h with
  | nil => rfl
  | cons hchar _ ih => rw [hchar.percentDecode_append hmarks, ih, Text.utf8_cons]

/-- **A name or value is read back from its spelling.** -/
theorem decodeComponent_eq (hmarks : valueMarks ⊆ marks) (h : SpellsText marks t written) :
    decodeComponent written = .ok t := by
  simp only [decodeComponent, h.percentDecode_eq hmarks, Text.ofUtf8?_utf8]

theorem brokenEscape?_eq_none (hmarks : valueMarks ⊆ marks) (h : SpellsText marks t written) :
    Text.brokenEscape? written = none := by
  induction h with
  | nil => rfl
  | cons hchar _ ih => rw [hchar.brokenEscape?_append hmarks, ih]

theorem separator_notMem (h : SpellsText marks t written) {sep : Char} (hmark : sep ∈ marks)
    (hsep : sep ∈ separators) : sep ∉ written := by
  induction h with
  | nil => exact List.not_mem_nil
  | cons hchar _ ih =>
      rw [List.mem_append, not_or]
      exact ⟨hchar.separator_notMem hmark hsep, ih⟩

/-- A text without marks is a spelling of itself. -/
theorem refl (h : ∀ c ∈ t, c ∉ marks) : SpellsText marks t t := by
  induction t with
  | nil => exact .nil
  | cons c t ih =>
      obtain ⟨hc, ht⟩ := List.forall_mem_cons.1 h
      exact .cons (.literal hc) (ih ht)

end SpellsText

/-! ### Segments and queries -/

theorem decodeComponent_nil : decodeComponent [] = .ok [] := by decide +kernel

theorem valueMarks_subset_nameMarks : valueMarks ⊆ nameMarks := List.subset_cons_self _ _

namespace SpellsSegment

variable {parameter : Text × Text} {segment : Text}

/-- A parameter is read back from its segment. -/
theorem decodeSegment_eq (h : SpellsSegment parameter segment) :
    decodeSegment segment = .ok parameter := by
  cases h with
  | pair hname hvalue =>
      have hequals := hname.separator_notMem (by decide) (by decide : '=' ∈ separators)
      -- the cut is at the equals sign between the two, as the name has none
      simp only [decodeSegment, nameAndValue, Text.cut_append_sep hequals, Option.getD_some,
        hname.decodeComponent_eq valueMarks_subset_nameMarks,
        hvalue.decodeComponent_eq (List.Subset.refl _)]
  | bare _ hname =>
      have hequals := hname.separator_notMem (by decide) (by decide : '=' ∈ separators)
      simp only [decodeSegment, nameAndValue, Text.cut_of_notMem hequals, Option.getD_none,
        hname.decodeComponent_eq valueMarks_subset_nameMarks, decodeComponent_nil]

theorem ne_nil (h : SpellsSegment parameter segment) : segment ≠ [] := by
  cases h with
  | pair _ _ => exact List.append_ne_nil_of_right_ne_nil _ (List.cons_ne_nil _ _)
  | bare hne hname =>
      rintro rfl
      have hread := hname.decodeComponent_eq valueMarks_subset_nameMarks
      rw [decodeComponent_nil] at hread
      exact hne (Except.ok.inj hread).symm

/-- The only separator of a segment is an equals sign. -/
theorem separator_notMem (h : SpellsSegment parameter segment) {sep : Char}
    (hsep : sep ∈ separators) (hne : sep ≠ '=') (hmark : sep ∈ valueMarks) : sep ∉ segment := by
  have hmark' : sep ∈ nameMarks := valueMarks_subset_nameMarks hmark
  cases h with
  | pair hname hvalue =>
      rw [List.mem_append, List.mem_cons]
      rintro (h | h | h)
      · exact hname.separator_notMem hmark' hsep h
      · exact hne h
      · exact hvalue.separator_notMem hmark hsep h
  | bare _ hname => exact hname.separator_notMem hmark' hsep

theorem brokenEscape?_eq_none (h : SpellsSegment parameter segment) :
    Text.brokenEscape? segment = none := by
  cases h with
  | pair hname hvalue =>
      have hdigit : ¬ Text.IsHexDigit '=' := by decide
      exact (Text.brokenEscape?_append_sep hdigit (by decide)).2
        ⟨hname.brokenEscape?_eq_none valueMarks_subset_nameMarks,
          hvalue.brokenEscape?_eq_none (List.Subset.refl _)⟩
  | bare _ hname => exact hname.brokenEscape?_eq_none valueMarks_subset_nameMarks

end SpellsSegment

namespace SpellsSegments

variable {parameters : Parameters} {segs : List Text}

/-- Every segment says nothing or gives one of the parameters. -/
theorem eq_nil_or_exists (h : SpellsSegments parameters segs) {segment : Text}
    (hsegment : segment ∈ segs) : segment = [] ∨ ∃ parameter, SpellsSegment parameter segment := by
  induction h with
  | nil => cases hsegment
  | empty _ ih => exact (List.mem_cons.1 hsegment).imp_right ih |>.elim .inl id
  | cons hfirst _ ih =>
      rcases List.mem_cons.1 hsegment with rfl | hrest
      · exact .inr ⟨_, hfirst⟩
      · exact ih hrest

/-- The segments that say something give the parameters in their order. -/
theorem map_decodeSegment_eq (h : SpellsSegments parameters segs) :
    (segs.filter (!·.isEmpty)).map decodeSegment = parameters.map Except.ok := by
  induction h with
  | nil => rfl
  | empty _ ih => exact ih
  | @cons parameter segment parameters segs hfirst _ ih =>
      have hkept : (!segment.isEmpty) = true := by
        rw [Bool.not_eq_true', List.isEmpty_eq_false_iff]
        exact hfirst.ne_nil
      rw [List.filter_cons, if_pos hkept, List.map_cons, List.map_cons, hfirst.decodeSegment_eq, ih]

theorem separator_notMem (h : SpellsSegments parameters segs) {sep : Char}
    (hsep : sep ∈ separators) (hne : sep ≠ '=') (hmark : sep ∈ valueMarks) {segment : Text}
    (hsegment : segment ∈ segs) : sep ∉ segment := by
  rcases h.eq_nil_or_exists hsegment with rfl | ⟨parameter, hspells⟩
  · exact List.not_mem_nil
  · exact hspells.separator_notMem hsep hne hmark

theorem segments_join (h : SpellsSegments parameters segs) :
    segments (Text.join ['&'] segs) = segs.filter (!·.isEmpty) := by
  -- no segments are joined to what an empty one is, so joining and splitting do not cancel there
  by_cases hnil : segs = []
  · subst hnil
    rfl
  · have hsegments : ∀ segment ∈ segs, '&' ∉ segment := fun _ =>
      h.separator_notMem (by decide) (by decide) (by decide)
    rw [segments, Text.join, List.splitOn_intercalate '&' hsegments hnil]

theorem brokenEscape?_join_eq_none (h : SpellsSegments parameters segs) :
    Text.brokenEscape? (Text.join ['&'] segs) = none := by
  have hdigit : ¬ Text.IsHexDigit '&' := by decide
  rw [Text.brokenEscape?_join_eq_none_iff hdigit (by decide)]
  intro segment hsegment
  rcases h.eq_nil_or_exists hsegment with rfl | ⟨parameter, hspells⟩
  · rfl
  · exact hspells.brokenEscape?_eq_none

end SpellsSegments

/-- **Parameters are read back from every spelling.** -/
theorem parse_of_spells {parameters : Parameters} {query : Text} (h : Spells parameters query) :
    parse query = .ok parameters := by
  obtain ⟨segs, hsegs, rfl⟩ := h
  refine parse_eq_ok_iff.2 ⟨?_, hsegs.brokenEscape?_join_eq_none, ?_⟩
  · exact Text.notMem_join (by decide) fun _ =>
      hsegs.separator_notMem (by decide) (by decide) (by decide)
  · rw [hsegs.segments_join]
    exact Fallible.mapM_eq_ok_iff.2 hsegs.map_decodeSegment_eq

namespace Spells

variable {parameters : Parameters} {query query' : Text}

/-- Two spellings of one list of parameters have one resource. -/
theorem exists_build_eq (h : Spells parameters query) (h' : Spells parameters query')
    (path account : Text) (variant : Variant) :
    ∃ resource, Resource.build path query account variant = .ok resource
      ∧ Resource.build path query' account variant = .ok resource :=
  ⟨_, Resource.build_eq_of_parse (parse_of_spells h) path account variant,
    Resource.build_eq_of_parse (parse_of_spells h') path account variant⟩

/-- **Parameters are read back from every spelling, and no resource tells which one it was.**  They
come back in their order, so every name has its values in the order of the query, and there is no
other name.  Urls and targets that differ in the spelling of their queries only are signed alike. -/
theorem read_back (h : Spells parameters query) (h' : Spells parameters query') :
    parse query = .ok parameters
    ∧ (∀ path account variant, ∃ resource,
      Resource.build path query account variant = .ok resource
        ∧ Resource.build path query' account variant = .ok resource)
    ∧ ∀ url url' target target' account variant, Target.parse url = .ok target →
      Target.parse url' = .ok target' → Target.writtenQuery url = query →
      Target.writtenQuery url' = query' →
      (Target.writtenPath url = Target.writtenPath url' → ∃ resource,
        Resource.ofUrl url account variant = .ok resource
          ∧ Resource.ofUrl url' account variant = .ok resource)
      ∧ (target.requestPath = target'.requestPath → ∃ resource,
        Resource.ofTarget target account variant = .ok resource
          ∧ Resource.ofTarget target' account variant = .ok resource) := by
  refine ⟨parse_of_spells h, exists_build_eq h h', ?_⟩
  intro url url' target target' account variant hurl hurl' hquery hquery'
  constructor
  · intro hsame
    rw [Resource.ofUrl_eq_written hurl, Resource.ofUrl_eq_written hurl', hquery, hquery', hsame]
    exact exists_build_eq h h' _ account variant
  · intro hsame
    rw [Resource.ofTarget_eq_written hurl, Resource.ofTarget_eq_written hurl', hquery, hquery',
      hsame]
    exact exists_build_eq h h' _ account variant

/-- Parameters with a character of two bytes, separators in a value, a missing value and an empty
name. -/
def mixedParameters : Parameters := [(['é', ' '], ['=', '&']), (['b'], []), ([], ['+'])]

theorem read_back_mixed :
    Spells mixedParameters "&%c3%A9+==%26&&b&=%2B".toList
      ∧ Spells mixedParameters "é%20=%3d%26&b=&=%2b&".toList
      ∧ parse "&%c3%A9+==%26&&b&=%2B".toList = .ok mixedParameters
      ∧ ∃ resource,
        Resource.build ['/'] "&%c3%A9+==%26&&b&=%2B".toList "acct".toList .sharedKey = .ok resource
        ∧ Resource.build ['/'] "é%20=%3d%26&b=&=%2b&".toList "acct".toList .sharedKey
          = .ok resource := by
  have hname : SpellsText nameMarks ['é', ' '] "%c3%A9+".toList := by
    have hescapes : Escapes (String.utf8EncodeChar 'é') "%c3%A9".toList :=
      .cons (by decide) (by decide) (.cons (by decide) (by decide) .nil)
    exact .cons (.escaped hescapes) (.cons .plus .nil)
  have hname' : SpellsText nameMarks ['é', ' '] "é%20".toList := by
    have hescapes : Escapes (String.utf8EncodeChar ' ') "%20".toList :=
      .cons (by decide) (by decide) .nil
    exact .cons (.literal (by decide)) (.cons (.escaped hescapes) .nil)
  have hampersand : Escapes (String.utf8EncodeChar '&') "%26".toList :=
    .cons (by decide) (by decide) .nil
  have hvalue : SpellsText valueMarks ['=', '&'] "=%26".toList :=
    .cons (.literal (by decide)) (.cons (.escaped hampersand) .nil)
  have hvalue' : SpellsText valueMarks ['=', '&'] "%3d%26".toList := by
    have hescapes : Escapes (String.utf8EncodeChar '=') "%3d".toList :=
      .cons (by decide) (by decide) .nil
    exact .cons (.escaped hescapes) (.cons (.escaped hampersand) .nil)
  have hbare : SpellsText nameMarks ['b'] ['b'] :=
    .refl (List.forall_mem_singleton.2 (by decide))
  have hplus : ∀ written ∈ ["%2B".toList, "%2b".toList], SpellsText valueMarks ['+'] written := by
    intro written hwritten
    have hescapes : Escapes (String.utf8EncodeChar '+') written := by
      simp only [List.mem_cons, List.not_mem_nil, or_false] at hwritten
      rcases hwritten with rfl | rfl
      · exact .cons (by decide) (by decide) .nil
      · exact .cons (by decide) (by decide) .nil
    rw [← List.append_nil written]
    exact .cons (.escaped hescapes) .nil
  have h : Spells mixedParameters "&%c3%A9+==%26&&b&=%2B".toList := by
    refine ⟨[[], "%c3%A9+==%26".toList, [], ['b'], "=%2B".toList], ?_, by decide⟩
    exact .empty (.cons (.pair hname hvalue) (.empty (.cons (.bare (by decide) hbare)
      (.cons (.pair .nil (hplus _ (by decide))) .nil))))
  have h' : Spells mixedParameters "é%20=%3d%26&b=&=%2b&".toList := by
    refine ⟨["é%20=%3d%26".toList, "b=".toList, "=%2b".toList, []], ?_, by decide⟩
    exact .cons (.pair hname' hvalue') (.cons (.pair hbare .nil)
      (.cons (.pair .nil (hplus _ (by decide))) (.empty .nil)))
  obtain ⟨hparse, hbuild, -⟩ := read_back h h'
  exact ⟨h, h', hparse, hbuild ['/'] "acct".toList .sharedKey⟩

end Spells

end Query

end SharedKey
