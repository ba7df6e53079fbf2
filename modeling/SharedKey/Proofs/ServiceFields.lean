/-
**The service's own fields, as they are put together and as they are listed.**

A header map is put together by adding values, replacing them and taking them away, under names
that are spelled in any letter case.  Reading takes first values only, and of the whole run a first
value shows what has been done to its own name: the first value added since the last replacement or
removal.  So a run may be told in many ways that no reading of the service's own fields can tell
apart.

The block lists the service's own names, each once and in ascending order, with the bytes of their
first values as they were sent.  It can be made exactly when these bytes are text, and two blocks
are equal exactly when they list the same names with the same bytes.  So nothing else of the header
fields has any influence on it: not the order in which different names were added, not the letter
case in which they were spelled, not the later values of a name and not the other names.

Main definitions:

* `HeaderMap.Change`, `HeaderMap.Edit` — what is done to a name, and under which spelling;
* `HeaderMap.edit`, `HeaderMap.ofEdits` — the fields after a run of edits;
* `HeaderMap.Edit.isAbout`, `HeaderMap.Change.first` — what a first value shows of the run;
* `HeaderMap.Edit.Alike` — runs with a difference that the service's own fields do not show;
* `HeaderMap.serviceFields` — the service's own names with the bytes of their first values;
* `HeaderBlock.Lists` — the entries that a block has for these;
* `HeaderBlock.entries` — the entries in the order of the block.

Main results:

* `HeaderMap.first?_apply`, `HeaderMap.first?_edit` — a first value after one edit, and after a run;
* `HeaderMap.first?_eq_of_eqvGen` — **runs with such differences leave the same first values of the
  service's own names**;
* `FieldValue.utf8_of_text?` — a value that is text is written as it was sent;
* `HeaderBlock.lists_entries`, `HeaderBlock.lines_eq_map_entries` — the block has one line for each
  entry;
* `HeaderBlock.ofHeaders_congr` — the block depends on the service's own fields only;
* `HeaderBlock.ofHeaders_lists_serviceFields` — **when there is a block, what it lists, and when two
  blocks are equal**.
-/

import Mathlib.Logic.Relation
import SharedKey.Proofs.Layout
import SharedKey.Proofs.QueryGrammar

set_option relaxedAutoImplicit false
set_option autoImplicit false

namespace SharedKey

namespace HeaderMap

/-! ### Edits -/

/-- What is done to the values of a name. -/
inductive Change
  /-- One more value, after those that are there. -/
  | append (value : FieldValue)
  /-- This one value, in place of those that are there. -/
  | insert (value : FieldValue)
  /-- No values. -/
  | remove
  deriving DecidableEq

/-- A change to the name that a text spells in any letter case. -/
structure Edit where
  /-- The spelling of the name. -/
  spelling : Text
  change : Change
  deriving DecidableEq

/-- The fields after a change to a name. -/
def Change.apply (headers : HeaderMap) (name : FieldName) : Change → HeaderMap
  | .append value => headers.append name value
  | .insert value => headers.insert name value
  | .remove => headers.remove name

/-- The first value of a name after a change to it. -/
def Change.first (current : Option FieldValue) : Change → Option FieldValue
  | .append value => current.or (some value)
  | .insert value => some value
  | .remove => none

namespace Edit

/-- The fields after an edit.  A text that spells no name changes nothing. -/
def apply (headers : HeaderMap) (edit : Edit) : HeaderMap :=
  match FieldName.ofText? edit.spelling with
  | some name => edit.change.apply headers name
  | none => headers

/-- Whether an edit is one of this name. -/
def isAbout (name : FieldName) (edit : Edit) : Bool := FieldName.ofText? edit.spelling = some name

end Edit

/-- The fields that a run of edits leaves of the given ones. -/
def edit (headers : HeaderMap) (edits : List Edit) : HeaderMap := edits.foldl Edit.apply headers

/-- The fields that a run of edits puts together. -/
def ofEdits (edits : List Edit) : HeaderMap := empty.edit edits

theorem edit_append (headers : HeaderMap) (edits edits' : List Edit) :
    headers.edit (edits ++ edits') = (headers.edit edits).edit edits' :=
  List.foldl_append

theorem edit_cons (headers : HeaderMap) (e : Edit) (edits : List Edit) :
    headers.edit (e :: edits) = (e.apply headers).edit edits := rfl

/-! ### First values -/

/-- A change to one name leaves the others alone. -/
theorem Change.first?_apply (change : Change) (headers : HeaderMap) (m n : FieldName) :
    (change.apply headers m).first? n
      = if m = n then change.first (headers.first? n) else headers.first? n := by
  by_cases hname : m = n
  · subst hname
    cases change with
    | append value => simp [apply, first, first?]
    | insert value => simp [apply, first, first?]
    | remove => simp [apply, first, first?]
  · cases change with
    | append value => simp [apply, first?, hname]
    | insert value => simp [apply, first?, hname]
    | remove => simp [apply, first?, hname]

/-- A first value after one edit. -/
theorem first?_apply (e : Edit) (headers : HeaderMap) (name : FieldName) :
    (e.apply headers).first? name
      = if e.isAbout name then e.change.first (headers.first? name) else headers.first? name := by
  cases hname : FieldName.ofText? e.spelling with
  | none => simp [Edit.apply, Edit.isAbout, hname]
  | some m => simp [Edit.apply, Edit.isAbout, hname, Change.first?_apply]

/-- A first value after a run: of all the edits only those of its name have changed it. -/
theorem first?_edit (headers : HeaderMap) (edits : List Edit) (name : FieldName) :
    (headers.edit edits).first? name
      = ((edits.filter (·.isAbout name)).map Edit.change).foldl Change.first
          (headers.first? name) := by
  induction edits generalizing headers with
  | nil => rfl
  | cons e edits ih =>
      rw [edit_cons, ih, first?_apply]
      by_cases habout : e.isAbout name = true
      · rw [if_pos habout, List.filter_cons_of_pos habout, List.map_cons, List.foldl_cons]
      · rw [if_neg habout, List.filter_cons_of_neg habout]

/-- A run does the same to first values that are the same. -/
theorem first?_edit_congr {headers headers' : HeaderMap} {name : FieldName}
    (h : headers.first? name = headers'.first? name) (edits : List Edit) :
    (headers.edit edits).first? name = (headers'.edit edits).first? name := by
  rw [first?_edit, first?_edit, h]

/-! ### Runs that are alike -/

/-- Runs with one difference that the service's own fields do not show. -/
inductive Edit.Alike : List Edit → List Edit → Prop
  /-- Edits of different names in another order. -/
  | swap {before after : List Edit} {e e' : Edit} :
      (∀ name, ¬ (e.isAbout name = true ∧ e'.isAbout name = true)) →
      Alike (before ++ e :: e' :: after) (before ++ e' :: e :: after)
  /-- Another spelling of the same name. -/
  | respell {before after : List Edit} {spelling spelling' : Text} (change : Change) :
      Text.lowercase spelling = Text.lowercase spelling' →
      Alike (before ++ ⟨spelling, change⟩ :: after) (before ++ ⟨spelling', change⟩ :: after)
  /-- One more value of a name that has one. -/
  | laterValue {before after : List Edit} {spelling : Text} {name : FieldName}
      (value : FieldValue) :
      FieldName.ofText? spelling = some name → (ofEdits before).first? name ≠ none →
      Alike (before ++ ⟨spelling, .append value⟩ :: after) (before ++ after)
  /-- Something done to any other name. -/
  | otherName {before after : List Edit} {e : Edit} :
      (∀ name, FieldName.servicePrefix <+: name.text → e.isAbout name = false) →
      Alike (before ++ e :: after) (before ++ after)

theorem Edit.isAbout_congr {spelling spelling' : Text}
    (h : Text.lowercase spelling = Text.lowercase spelling') (change : Change) (name : FieldName) :
    isAbout name ⟨spelling, change⟩ = isAbout name ⟨spelling', change⟩ := by
  simp only [isAbout, FieldName.ofText?, h]

/-- One such difference leaves the first values of the service's own names as they are. -/
theorem first?_eq_of_alike {edits edits' : List Edit} (h : Edit.Alike edits edits')
    {name : FieldName} (hservice : FieldName.servicePrefix <+: name.text) :
    (ofEdits edits).first? name = (ofEdits edits').first? name := by
  -- what comes after the difference can not tell, so in each case only the difference is looked at
  cases h with
  | @swap before after e e' hnames =>
      rw [ofEdits, ofEdits, edit_append, edit_append]
      refine first?_edit_congr ?_ after
      simp only [first?_apply]
      by_cases habout : e.isAbout name = true
      · have habout' : ¬ e'.isAbout name = true := fun h' => hnames name ⟨habout, h'⟩
        rw [if_pos habout, if_neg habout', if_neg habout', if_pos habout]
      · rw [if_neg habout, if_neg habout]
  | @respell before after spelling spelling' change hlower =>
      rw [ofEdits, ofEdits, edit_append, edit_append]
      refine first?_edit_congr ?_ after
      rw [first?_apply, first?_apply, Edit.isAbout_congr hlower]
  | @laterValue before after spelling m value hname hvalue =>
      rw [ofEdits, ofEdits, edit_append, edit_append]
      refine first?_edit_congr ?_ after
      rw [first?_apply]
      split
      · next habout =>
          obtain rfl : m = name := Option.some.inj (hname.symm.trans (of_decide_eq_true habout))
          obtain ⟨v, hv⟩ := Option.ne_none_iff_exists'.1 hvalue
          rw [ofEdits] at hv
          rw [hv]
          rfl
      · rfl
  | @otherName before after e hother =>
      rw [ofEdits, ofEdits, edit_append, edit_append]
      refine first?_edit_congr ?_ after
      rw [first?_apply, if_neg (by rw [hother name hservice]; decide)]

/-- **Runs with such differences leave the same first values of the service's own names.** -/
theorem first?_eq_of_eqvGen {edits edits' : List Edit} (h : Relation.EqvGen Edit.Alike edits edits')
    {name : FieldName} (hservice : FieldName.servicePrefix <+: name.text) :
    (ofEdits edits).first? name = (ofEdits edits').first? name := by
  induction h with
  | rel edits edits' halike => exact first?_eq_of_alike halike hservice
  | refl edits => rfl
  | symm edits edits' _ ih => exact ih.symm
  | trans edits edits' edits'' _ _ ih ih' => exact ih.trans ih'

end HeaderMap

/-! ### The service's own fields in bytes -/

/-- The text of a printable byte takes that byte. -/
theorem FieldValue.utf8_ofNat {b : UInt8} (h : isTextByte b = true) :
    String.utf8EncodeChar (Char.ofNat b.toNat) = [b] := by
  simp only [isTextByte, Bool.or_eq_true, Bool.and_eq_true, decide_eq_true_eq] at h
  obtain ⟨c, hc, hsingle⟩ := Text.exists_utf8EncodeChar_eq (b := b) (by omega)
  rw [← hc, Char.ofNat_toNat, hsingle]

/-- A value that is text is written as it was sent. -/
theorem FieldValue.utf8_of_text? {v : FieldValue} {t : Text} (h : v.text? = some t) :
    Text.utf8 t = v.bytes := by
  rw [text?] at h
  split at h
  · next hall =>
      obtain rfl := Option.some.inj h
      rw [Text.utf8, List.flatMap_map,
        List.flatMap_congr fun b hb => utf8_ofNat (List.all_eq_true.1 hall b hb)]
      exact List.flatMap_singleton' v.bytes
  · cases h

namespace HeaderMap

/-- The service's own names that have a value, with the bytes of the first one. -/
def serviceFields (headers : HeaderMap) : Set (FieldName × Bytes) :=
  {field | FieldName.servicePrefix <+: field.1.text
    ∧ ∃ value, headers.first? field.1 = some value ∧ value.bytes = field.2}

/-- All first values of the service's own names are text. -/
def ServiceReadable (headers : HeaderMap) : Prop :=
  ∀ name, FieldName.servicePrefix <+: name.text → headers.Readable name

theorem serviceReadable_iff {headers : HeaderMap} :
    headers.ServiceReadable
      ↔ ∀ field ∈ headers.serviceFields, ∀ b ∈ field.2,
          b.toNat = 0x09 ∨ (0x20 ≤ b.toNat ∧ b.toNat ≤ 0x7E) := by
  constructor
  · rintro h ⟨name, _⟩ ⟨hservice, value, hfirst, rfl⟩ b hb
    by_contra hbyte
    exact HeaderMap.not_readable_iff.2 ⟨value, hfirst, b, hb, hbyte⟩ (h name hservice)
  · intro h name hservice
    by_contra hunreadable
    obtain ⟨value, hfirst, b, hb, hbyte⟩ := HeaderMap.not_readable_iff.1 hunreadable
    exact hbyte (h (name, value.bytes) ⟨hservice, value, hfirst, rfl⟩ b hb)

/-- The text of a first value takes the bytes of that value. -/
theorem utf8_textOf {headers : HeaderMap} {name : FieldName} {value : FieldValue}
    (hreadable : headers.Readable name) (hfirst : headers.first? name = some value) :
    Text.utf8 (headers.textOf name) = value.bytes := by
  obtain ⟨t, ht⟩ := Option.ne_none_iff_exists'.1 (hreadable value hfirst)
  rw [textOf, hfirst, Option.bind_some, ht]
  exact FieldValue.utf8_of_text? ht

/-- The texts of first values tell their bytes. -/
theorem mem_serviceFields_iff {headers : HeaderMap} (h : headers.ServiceReadable)
    {name : FieldName} {t : Text} :
    (name, Text.utf8 t) ∈ headers.serviceFields
      ↔ (name, t) ∈ headers.fieldsWithPrefix FieldName.servicePrefix := by
  constructor
  · rintro ⟨hservice, value, hfirst, hbytes⟩
    have htext := utf8_textOf (h name hservice) hfirst
    exact ⟨hservice, by simp [hfirst], Text.utf8_injective (hbytes.symm.trans htext.symm)⟩
  · rintro ⟨hservice, hfirst, htext⟩
    obtain ⟨value, hvalue⟩ := Option.ne_none_iff_exists'.1 hfirst
    obtain rfl : t = headers.textOf name := htext
    exact ⟨hservice, value, hvalue, (utf8_textOf (h name hservice) hvalue).symm⟩

/-- Where they are text, the service's own fields are the same in bytes and in texts. -/
theorem serviceFields_eq_iff {headers headers' : HeaderMap} (h : headers.ServiceReadable)
    (h' : headers'.ServiceReadable) :
    headers.serviceFields = headers'.serviceFields
      ↔ headers.fieldsWithPrefix FieldName.servicePrefix
        = headers'.fieldsWithPrefix FieldName.servicePrefix := by
  -- a value in bytes is that of a text, since it can be read; both inclusions are of this form
  have hsub : ∀ {other other' : HeaderMap}, other.ServiceReadable → other'.ServiceReadable →
      other.fieldsWithPrefix FieldName.servicePrefix
        = other'.fieldsWithPrefix FieldName.servicePrefix →
      other.serviceFields ⊆ other'.serviceFields := by
    rintro other other' hother hother' heq ⟨name, _⟩ ⟨hservice, value, hfirst, rfl⟩
    have hmem : (name, Text.utf8 (other.textOf name)) ∈ other.serviceFields := by
      rw [utf8_textOf (hother name hservice) hfirst]
      exact ⟨hservice, value, hfirst, rfl⟩
    rw [mem_serviceFields_iff hother, heq, ← mem_serviceFields_iff hother',
      utf8_textOf (hother name hservice) hfirst] at hmem
    exact hmem
  constructor
  · intro heq
    ext ⟨name, t⟩
    rw [← mem_serviceFields_iff h, ← mem_serviceFields_iff h', heq]
  · intro heq
    exact (hsub h h' heq).antisymm (hsub h' h heq.symm)

/-- First values that are the same make the same of the service's own fields. -/
theorem serviceFields_congr {headers headers' : HeaderMap}
    (h : ∀ name, FieldName.servicePrefix <+: name.text →
      headers.first? name = headers'.first? name) :
    headers.serviceFields = headers'.serviceFields := by
  ext ⟨name, bytes⟩
  refine and_congr_right fun hservice => ?_
  rw [h name hservice]

end HeaderMap

namespace HeaderBlock

/-! ### Entries -/

/-- The entries of a block: the service's own names, each once and in ascending order, with texts
that take the bytes of their first values. -/
structure Lists (headers : HeaderMap) (entries : List (FieldName × Text)) : Prop where
  names_ascending : (entries.map Prod.fst).Pairwise fun m n => Text.le m.text n.text = true ∧ m ≠ n
  mem_iff : ∀ name t, (name, t) ∈ entries ↔ (name, Text.utf8 t) ∈ headers.serviceFields

/-- The order of names. -/
def nameLe (m n : FieldName) : Bool := Text.le m.text n.text

theorem linearLe_nameLe : LinearLe nameLe where
  total m n := Text.linearLe.total m.text n.text
  trans _ _ _ := Text.linearLe.trans _ _ _
  antisymm _ _ hmn hnm := FieldName.text_inj.1 (Text.linearLe.antisymm _ _ hmn hnm)

/-- The service's own names in order, with the texts of their first values. -/
def entries (headers : HeaderMap) : List (FieldName × Text) :=
  ((headers.namesWithPrefix FieldName.servicePrefix).mergeSort nameLe).map fun name =>
    (name, headers.textOf name)

/-- As a name has one entry, sorting the pairs sorts the names. -/
theorem mergeSort_pairsWithPrefix (headers : HeaderMap) :
    (headers.pairsWithPrefix FieldName.servicePrefix).mergeSort pairLe
      = (entries headers).map fun entry => (entry.1.text, entry.2) := by
  have hle : ∀ m n : FieldName,
      nameLe m n = pairLe (m.text, headers.textOf m) (n.text, headers.textOf n) := by
    intro m n
    rw [nameLe, pairLe]
    split
    · next heq =>
        -- values decide between equal names only, and then they are those of one name
        obtain rfl := FieldName.text_inj.1 heq
        rw [Text.linearLe.le_refl, Text.linearLe.le_refl]
    · rfl
  rw [entries, List.map_map, HeaderMap.pairsWithPrefix]
  exact (List.map_mergeSort fun m _ n _ => hle m n).symm

/-- The block has one line for each entry. -/
theorem lines_eq_map_entries (headers : HeaderMap) :
    lines headers = (entries headers).map fun entry => entry.1.text ++ ':' :: entry.2 := by
  rw [lines, mergeSort_pairsWithPrefix, List.map_map]
  rfl

theorem lists_entries {headers : HeaderMap} (h : headers.ServiceReadable) :
    Lists headers (entries headers) where
  names_ascending := by
    have hnodup : ((headers.namesWithPrefix FieldName.servicePrefix).mergeSort nameLe).Nodup :=
      (List.mergeSort_perm _ _).nodup_iff.2 (headers.nodup_namesWithPrefix _)
    have hmap : (entries headers).map Prod.fst
        = (headers.namesWithPrefix FieldName.servicePrefix).mergeSort nameLe := by
      rw [entries, List.map_map]
      exact List.map_id _
    rw [hmap]
    exact (linearLe_nameLe.pairwise_mergeSort _).and hnodup
  mem_iff name t := by
    rw [HeaderMap.mem_serviceFields_iff h, entries]
    simp only [List.mem_map, List.mem_mergeSort, HeaderMap.mem_namesWithPrefix, Prod.mk.injEq,
      HeaderMap.fieldsWithPrefix, Set.mem_ofPred_eq]
    constructor
    · rintro ⟨n, ⟨hservice, hfirst⟩, rfl, rfl⟩
      exact ⟨hservice, hfirst, rfl⟩
    · rintro ⟨hservice, hfirst, rfl⟩
      exact ⟨name, ⟨hservice, hfirst⟩, rfl, rfl⟩

/-! ### Equal blocks -/

/-- Two blocks are equal exactly when the service's own fields are. -/
theorem ofHeaders_eq_iff {headers headers' : HeaderMap} {block block' : Text}
    (h : ofHeaders headers = .ok block) (h' : ofHeaders headers' = .ok block') :
    block = block' ↔ headers.serviceFields = headers'.serviceFields := by
  have hreadable := (reading_ofHeaders headers).exists_ok_iff.1 ⟨block, h⟩
  have hreadable' := (reading_ofHeaders headers').exists_ok_iff.1 ⟨block', h'⟩
  rw [HeaderMap.serviceFields_eq_iff hreadable hreadable', ← lines_eq_iff, ← shownLines_eq_iff]
  constructor
  · intro heq
    rw [← splitOn_ofHeaders h, ← splitOn_ofHeaders h', heq]
  · intro heq
    rw [(reading_ofHeaders headers).eq_of_ok h, (reading_ofHeaders headers').eq_of_ok h', heq]

/-- The block depends on the service's own fields only. -/
theorem ofHeaders_congr {headers headers' : HeaderMap}
    (h : headers.serviceFields = headers'.serviceFields) :
    ofHeaders headers = ofHeaders headers' := by
  have hcondition : headers.ServiceReadable ↔ headers'.ServiceReadable := by
    rw [HeaderMap.serviceReadable_iff, HeaderMap.serviceReadable_iff, h]
  refine ((reading_ofHeaders headers).congr_answer fun hreadable => ?_).unique
    (reading_ofHeaders headers') hcondition
  rw [shownLines_eq_iff.2 (lines_eq_iff.2
    ((HeaderMap.serviceFields_eq_iff hreadable (hcondition.1 hreadable)).1 h))]

/-- **When there is a block, what it lists, and when two blocks are equal.**  There is one exactly
when the first values of the service's own names are tabs and printable ASCII; its lines are a name,
a colon and the first value as it was sent, for every name once and in ascending order; and two
blocks are equal exactly when these names and values are.  So two runs of edits that differ in the
order of different names, in the spelling of a name, in later values or in other names give the same
block. -/
theorem ofHeaders_lists_serviceFields :
    (∀ headers : HeaderMap, (∃ block, ofHeaders headers = .ok block)
      ↔ ∀ field ∈ headers.serviceFields, ∀ b ∈ field.2,
          b.toNat = 0x09 ∨ (0x20 ≤ b.toNat ∧ b.toNat ≤ 0x7E))
    ∧ (∀ (headers : HeaderMap) (block : Text), ofHeaders headers = .ok block →
      ∃ entries, Lists headers entries
        ∧ block = Text.join ['\n'] (entries.map fun entry => entry.1.text ++ ':' :: entry.2))
    ∧ (∀ (headers headers' : HeaderMap) (block block' : Text),
      ofHeaders headers = .ok block → ofHeaders headers' = .ok block' →
        (block = block' ↔ headers.serviceFields = headers'.serviceFields))
    ∧ ∀ edits edits' : List HeaderMap.Edit, Relation.EqvGen HeaderMap.Edit.Alike edits edits' →
      ofHeaders (HeaderMap.ofEdits edits) = ofHeaders (HeaderMap.ofEdits edits') := by
  refine ⟨?_, ?_, ?_, ?_⟩
  · intro headers
    exact (reading_ofHeaders headers).exists_ok_iff.trans HeaderMap.serviceReadable_iff
  · intro headers block h
    have hreadable := (reading_ofHeaders headers).exists_ok_iff.1 ⟨block, h⟩
    refine ⟨entries headers, lists_entries hreadable, ?_⟩
    rw [(reading_ofHeaders headers).eq_of_ok h, join_shownLines, lines_eq_map_entries]
  · intro headers headers' block block' h h'
    exact ofHeaders_eq_iff h h'
  · intro edits edits' halike
    exact ofHeaders_congr (HeaderMap.serviceFields_congr fun name hservice =>
      HeaderMap.first?_eq_of_eqvGen halike hservice)

/-- Two of the service's own names, one of them in mixed letter case and with a later value, and a
date that is no text. -/
def mixedRun : List HeaderMap.Edit :=
  [⟨"X-Ms-B".toList, .append ⟨[0x20, 0x31, 0x20], false, Eq.refl true⟩⟩,
    ⟨"x-ms-b".toList, .append ⟨[0x33], false, Eq.refl true⟩⟩,
    ⟨"Date".toList, .append ⟨[0xFF], false, Eq.refl true⟩⟩,
    ⟨"x-ms-a".toList, .append ⟨[0x32], false, Eq.refl true⟩⟩]

/-- The same two names in order, and nothing else. -/
def plainRun : List HeaderMap.Edit :=
  [⟨"x-ms-a".toList, .append ⟨[0x32], false, Eq.refl true⟩⟩,
    ⟨"x-ms-b".toList, .append ⟨[0x20, 0x31, 0x20], false, Eq.refl true⟩⟩]

/-- One difference after the other: the later value, the date, the order and the spelling. -/
theorem eqvGen_alike_mixedRun : Relation.EqvGen HeaderMap.Edit.Alike mixedRun plainRun := by
  have hlater : HeaderMap.Edit.Alike mixedRun (mixedRun.take 1 ++ mixedRun.drop 2) :=
    @HeaderMap.Edit.Alike.laterValue (mixedRun.take 1) (mixedRun.drop 2) "x-ms-b".toList
      ⟨"x-ms-b".toList, rfl⟩ _ rfl (by decide)
  have hdate : HeaderMap.Edit.Alike (mixedRun.take 1 ++ mixedRun.drop 2)
      (mixedRun.take 1 ++ mixedRun.drop 3) := by
    refine @HeaderMap.Edit.Alike.otherName (mixedRun.take 1) (mixedRun.drop 3) _ ?_
    intro name hservice
    refine decide_eq_false fun hname => ?_
    obtain rfl : FieldName.date = name := Option.some.inj hname
    exact absurd hservice (by decide)
  have hswap : HeaderMap.Edit.Alike (mixedRun.take 1 ++ mixedRun.drop 3)
      (mixedRun.drop 3 ++ mixedRun.take 1) := by
    refine @HeaderMap.Edit.Alike.swap [] [] _ _ ?_
    rintro name ⟨hfirst, hlast⟩
    exact absurd ((of_decide_eq_true hfirst).trans (of_decide_eq_true hlast).symm) (by decide)
  have hspelling : HeaderMap.Edit.Alike (mixedRun.drop 3 ++ mixedRun.take 1) plainRun :=
    @HeaderMap.Edit.Alike.respell (mixedRun.drop 3) [] "X-Ms-B".toList "x-ms-b".toList _
      (by decide)
  exact .trans _ _ _ (.rel _ _ hlater) (.trans _ _ _ (.rel _ _ hdate)
    (.trans _ _ _ (.rel _ _ hswap) (.rel _ _ hspelling)))

/-- They give one block, with the blanks around a value. -/
theorem ofHeaders_lists_serviceFields_mixed_and_plain :
    ofHeaders (HeaderMap.ofEdits mixedRun) = .ok "x-ms-a:2\nx-ms-b: 1 ".toList
      ∧ ofHeaders (HeaderMap.ofEdits plainRun) = .ok "x-ms-a:2\nx-ms-b: 1 ".toList := by
  have hpairs : (HeaderMap.ofEdits plainRun).withPrefix FieldName.servicePrefix
      = .ok [("x-ms-a".toList, "2".toList), ("x-ms-b".toList, " 1 ".toList)] := by decide
  have hplain : ofHeaders (HeaderMap.ofEdits plainRun) = .ok "x-ms-a:2\nx-ms-b: 1 ".toList := by
    rw [ofHeaders, hpairs, Except.map, render_of_perm _ _ (.refl _) (by decide)]
    rfl
  exact ⟨(ofHeaders_lists_serviceFields.2.2.2 _ _ eqvGen_alike_mixedRun).trans hplain, hplain⟩

end HeaderBlock

end SharedKey
