/-
**What reading header fields gives, and when it fails.**

A header map is read through the first values of its names.  Every reading has one condition: the
first values that it asks for are text.  Where that holds it gives a text that depends on these
first values only, and where it does not hold it fails with the one error of an opaque value.
`Reading` states both halves at once, so that a reading made of others has the conjunction of their
conditions, and nothing about the order in which they fail has to be said.

The block has one line for each of the service's own fields.  A name holds no colon and a value no
newline, so the lines can be told apart in the block, and the name from the value in each line; and
since the lines stand in the order of their names, the block says no more than which fields there
are.

Main definitions:

* `Reading` — an answer with the condition under which it is given;
* `HeaderMap.Readable`, `HeaderMap.textOf` — a first value that is text, and that text;
* `HeaderMap.namesWithPrefix`, `HeaderMap.pairsWithPrefix` — the names that begin with a text, and
  these names with their texts;
* `HeaderMap.fieldsWithPrefix` — the same as a set;
* `HeaderBlock.lines` — the lines of the service's own fields;
* `HeaderBlock.shownLines` — the same with the empty line that stands for none.

Main results:

* `Reading.bind`, `Reading.mapM` — readings made of others;
* `HeaderMap.reading_lookupOrEmpty`, `HeaderMap.reading_withPrefix` — the readings of a map;
* `HeaderMap.pairsWithPrefix_perm_iff` — the pairs are the set in some order, each member once;
* `HeaderMap.newline_notMem_textOf` — **no header field can contribute a newline**;
* `HeaderBlock.reading_ofHeaders` — the block is the join of its lines;
* `HeaderBlock.shownLine_spec` — **no line of the block can be taken for the resource after it**;
* `HeaderBlock.lines_eq_iff` — **the lines of two maps are the same exactly when their service's
  own fields are**.
-/

import Mathlib.Data.List.Nodup
import Mathlib.Data.Set.Basic
import SharedKey.Fallible
import SharedKey.Proofs.Sorting

set_option relaxedAutoImplicit false
set_option autoImplicit false

namespace SharedKey

/-! ### Answers with a condition -/

/-- The answer `a` under a condition, and the error of an opaque value without it. -/
structure Reading {α : Type} (x : Except Error α) (condition : Prop) (a : α) : Prop where
  ok_of : condition → x = .ok a
  error_of : ¬ condition → x = .error .opaqueFieldValue

namespace Reading

variable {α β : Type} {x : Except Error α} {p q : Prop} {a : α} {b : β}

theorem ok (a : α) : Reading (.ok a) True a := ⟨fun _ => rfl, fun h => absurd trivial h⟩

theorem congr (h : Reading x p a) (hpq : p ↔ q) : Reading x q a :=
  ⟨fun hq => h.ok_of (hpq.2 hq), fun hq => h.error_of fun hp => hq (hpq.1 hp)⟩

/-- The answer may be replaced by one that is equal under the condition. -/
theorem congr_answer (h : Reading x p a) {a' : α} (ha : p → a = a') : Reading x p a' :=
  ⟨fun hp => ha hp ▸ h.ok_of hp, h.error_of⟩

theorem map (h : Reading x p a) (f : α → β) : Reading (x.map f) p (f a) where
  ok_of hp := by rw [h.ok_of hp]; rfl
  error_of hp := by rw [h.error_of hp]; rfl

/-- Two readings one after the other need both conditions. -/
theorem bind {f : α → Except Error β} (hx : Reading x p a) (hf : Reading (f a) q b) :
    Reading (x >>= f) (p ∧ q) b where
  ok_of := by
    rintro ⟨hp, hq⟩
    rw [hx.ok_of hp]
    exact hf.ok_of hq
  error_of hpq := by
    by_cases hp : p
    · rw [hx.ok_of hp]
      exact hf.error_of fun hq => hpq ⟨hp, hq⟩
    · rw [hx.error_of hp]
      rfl

/-- A reading of every member of a list needs all their conditions. -/
theorem mapM {ι : Type} {l : List ι} {f : ι → Except Error α} {condition : ι → Prop} {g : ι → α}
    (h : ∀ i ∈ l, Reading (f i) (condition i) (g i)) :
    Reading (l.mapM f) (∀ i ∈ l, condition i) (l.map g) where
  ok_of hall := Fallible.mapM_of_forall_ok fun i hi => (h i hi).ok_of (hall i hi)
  error_of hall := by
    push Not at hall
    obtain ⟨i, hi, hcondition⟩ := hall
    refine Fallible.mapM_of_error hi ((h i hi).error_of hcondition) ?_
    intro j hj e he
    by_cases hp : condition j
    · rw [(h j hj).ok_of hp] at he
      cases he
    · rw [(h j hj).error_of hp] at he
      exact (Except.error.inj he).symm

theorem exists_ok_iff (h : Reading x p a) : (∃ r, x = .ok r) ↔ p := by
  constructor
  · rintro ⟨r, hr⟩
    by_contra hp
    rw [h.error_of hp] at hr
    cases hr
  · intro hp
    exact ⟨a, h.ok_of hp⟩

theorem eq_of_ok (h : Reading x p a) {r : α} (hr : x = .ok r) : r = a := by
  have ha := h.ok_of (h.exists_ok_iff.1 ⟨r, hr⟩)
  exact Except.ok.inj (hr.symm.trans ha)

/-- Two readings with equivalent conditions and one answer are equal. -/
theorem unique {y : Except Error α} (hx : Reading x p a) (hy : Reading y q a) (hpq : p ↔ q) :
    x = y := by
  by_cases hp : p
  · rw [hx.ok_of hp, hy.ok_of (hpq.1 hp)]
  · rw [hx.error_of hp, hy.error_of fun hq => hp (hpq.2 hq)]

end Reading

/-! ### Values -/

namespace FieldValue

/-- A value has no text exactly when one of its bytes is no tab and no printable ASCII. -/
theorem text?_eq_none_iff {v : FieldValue} :
    v.text? = none ↔ ∃ b ∈ v.bytes, ¬ (b.toNat = 0x09 ∨ (0x20 ≤ b.toNat ∧ b.toNat ≤ 0x7E)) := by
  have hbyte : ∀ b : UInt8,
      isTextByte b = true ↔ b.toNat = 0x09 ∨ (0x20 ≤ b.toNat ∧ b.toNat ≤ 0x7E) := by
    intro b
    simp only [isTextByte, Bool.or_eq_true, Bool.and_eq_true, decide_eq_true_eq]
    omega
  simp [text?, ← hbyte]

theorem newline_notMem_of_text? {v : FieldValue} {t : Text} (h : v.text? = some t) :
    '\n' ∉ t := by
  rw [text?] at h
  split at h
  · next hall =>
      obtain rfl := Option.some.inj h
      intro hmem
      obtain ⟨b, hb, hchar⟩ := List.mem_map.1 hmem
      have htext := List.all_eq_true.1 hall b hb
      simp only [isTextByte, Bool.or_eq_true, Bool.and_eq_true, decide_eq_true_eq] at htext
      have hascii : ∀ n < 128, n ≠ 10 → Char.ofNat n ≠ '\n' := by decide
      exact hascii b.toNat (by omega) (by omega) hchar
  · cases h

end FieldValue

/-! ### Names -/

namespace FieldName

/-- A name holds neither a colon nor a newline. -/
theorem notMem_text (n : FieldName) {c : Char} (hc : Text.isTokenChar c = false) : c ∉ n.text := by
  intro hmem
  rw [n.isTokenChar_of_mem hmem] at hc
  cases hc

theorem text_inj {m n : FieldName} : m.text = n.text ↔ m = n :=
  ⟨FieldName.ext, fun h => h ▸ rfl⟩

end FieldName

/-! ### First values -/

namespace HeaderMap

/-- The first value of the name is text, or there is none. -/
def Readable (headers : HeaderMap) (name : FieldName) : Prop :=
  ∀ v, headers.first? name = some v → v.text? ≠ none

/-- The text of the first value, empty where there is none. -/
def textOf (headers : HeaderMap) (name : FieldName) : Text :=
  ((headers.first? name).bind FieldValue.text?).getD []

theorem readable_of_none {headers : HeaderMap} {name : FieldName}
    (h : headers.first? name = none) : headers.Readable name := by
  intro v hv
  rw [h] at hv
  cases hv

/-- Where all values are text, every name can be read. -/
theorem readable_of_forall {headers : HeaderMap}
    (h : ∀ field ∈ headers.fields, field.2.text? ≠ none) (name : FieldName) :
    headers.Readable name := by
  intro v hv
  obtain ⟨field, hfield, rfl⟩ := List.mem_map.1 (List.mem_of_head? hv)
  exact h field (List.mem_of_mem_filter hfield)

/-- What can not be read is a first value with a byte that is no text. -/
theorem not_readable_iff {headers : HeaderMap} {name : FieldName} :
    ¬ headers.Readable name ↔ ∃ v, headers.first? name = some v ∧
      ∃ b ∈ v.bytes, ¬ (b.toNat = 0x09 ∨ (0x20 ≤ b.toNat ∧ b.toNat ≤ 0x7E)) := by
  simp only [Readable, not_forall, not_not, FieldValue.text?_eq_none_iff, exists_prop]

/-- No header field can contribute a newline. -/
theorem newline_notMem_textOf (headers : HeaderMap) (name : FieldName) :
    '\n' ∉ headers.textOf name := by
  rw [textOf]
  cases h : (headers.first? name).bind FieldValue.text? with
  | none => simp
  | some t =>
      obtain ⟨v, -, hv⟩ := Option.bind_eq_some_iff.1 h
      exact FieldValue.newline_notMem_of_text? hv

theorem reading_lookup (headers : HeaderMap) (name : FieldName) :
    Reading (headers.lookup name.text) (headers.Readable name)
      ((headers.first? name).bind FieldValue.text?) := by
  rw [HeaderMap.lookup_text]
  cases hfirst : headers.first? name with
  | none => exact (Reading.ok none).congr (iff_of_true trivial (readable_of_none hfirst))
  | some v =>
      have hreadable : headers.Readable name ↔ v.text? ≠ none := by
        simp [Readable, hfirst]
      cases htext : v.text? with
      | none =>
          refine ⟨fun h => absurd htext (hreadable.1 h), fun _ => ?_⟩
          simp [FieldValue.read, htext, Except.map]
      | some t =>
          refine ⟨fun _ => ?_, fun h => absurd (hreadable.2 (by simp [htext])) h⟩
          simp [FieldValue.read, htext, Except.map]

/-- A missing field is read as the empty text. -/
theorem reading_lookupOrEmpty (headers : HeaderMap) (name : FieldName) :
    Reading (headers.lookupOrEmpty name.text) (headers.Readable name) (headers.textOf name) :=
  (headers.reading_lookup name).map _

/-! ### Names that begin with a text -/

/-- The names that begin with `start` and have a value, each once. -/
def namesWithPrefix (headers : HeaderMap) (start : Text) : List FieldName :=
  headers.names.filter fun name => start.isPrefixOf name.text

/-- The names that begin with `start`, with their texts. -/
def pairsWithPrefix (headers : HeaderMap) (start : Text) : List (Text × Text) :=
  (headers.namesWithPrefix start).map fun name => (name.text, headers.textOf name)

/-- The fields whose names begin with `start`: each name with the text of its first value. -/
def fieldsWithPrefix (headers : HeaderMap) (start : Text) : Set (FieldName × Text) :=
  {field | start <+: field.1.text ∧ headers.first? field.1 ≠ none
    ∧ field.2 = headers.textOf field.1}

theorem mem_namesWithPrefix {headers : HeaderMap} {start : Text} {name : FieldName} :
    name ∈ headers.namesWithPrefix start ↔ start <+: name.text ∧ headers.first? name ≠ none := by
  simp [namesWithPrefix, mem_names, first?, and_comm]

theorem nodup_namesWithPrefix (headers : HeaderMap) (start : Text) :
    (headers.namesWithPrefix start).Nodup :=
  (nodup_eraseDups _).filter _

theorem mem_pairsWithPrefix {headers : HeaderMap} {start : Text} {name : FieldName} {t : Text} :
    (name.text, t) ∈ headers.pairsWithPrefix start
      ↔ (name, t) ∈ headers.fieldsWithPrefix start := by
  simp only [pairsWithPrefix, List.mem_map, Prod.mk.injEq, mem_namesWithPrefix, fieldsWithPrefix,
    Set.mem_ofPred_eq]
  constructor
  · rintro ⟨n, ⟨hstart, hfirst⟩, htext, rfl⟩
    obtain rfl := FieldName.text_inj.1 htext
    exact ⟨hstart, hfirst, rfl⟩
  · rintro ⟨hstart, hfirst, rfl⟩
    exact ⟨name, ⟨hstart, hfirst⟩, rfl, rfl⟩

theorem nodup_pairsWithPrefix (headers : HeaderMap) (start : Text) :
    (headers.pairsWithPrefix start).Nodup := by
  refine List.Nodup.map ?_ (headers.nodup_namesWithPrefix start)
  intro m n h
  exact FieldName.text_inj.1 (Prod.mk.inj h).1

/-- The pairs of two maps are permutations of each other exactly when their fields are the same. -/
theorem pairsWithPrefix_perm_iff {headers headers' : HeaderMap} {start : Text} :
    (headers.pairsWithPrefix start).Perm (headers'.pairsWithPrefix start)
      ↔ headers.fieldsWithPrefix start = headers'.fieldsWithPrefix start := by
  rw [List.perm_ext_iff_of_nodup (headers.nodup_pairsWithPrefix start)
    (headers'.nodup_pairsWithPrefix start), Set.ext_iff]
  constructor
  · rintro h ⟨name, t⟩
    rw [← mem_pairsWithPrefix, ← mem_pairsWithPrefix]
    exact h (name.text, t)
  · intro h pair
    -- a pair that is in one of the lists has the text of a name in it
    constructor
    · intro hpair
      obtain ⟨name, -, rfl⟩ := List.mem_map.1 hpair
      exact mem_pairsWithPrefix.2 ((h _).1 (mem_pairsWithPrefix.1 hpair))
    · intro hpair
      obtain ⟨name, -, rfl⟩ := List.mem_map.1 hpair
      exact mem_pairsWithPrefix.2 ((h _).2 (mem_pairsWithPrefix.1 hpair))

/-- The names are read in the order in which they are listed, under their own texts. -/
theorem withPrefix_eq (headers : HeaderMap) (start : Text) :
    headers.withPrefix start = (headers.namesWithPrefix start).mapM fun name =>
      (headers.lookupOrEmpty name.text).map fun value => (name.text, value) := by
  have hnames : (headers.names.map fun name => FieldName.normalize name.text).filter
      start.isPrefixOf = (headers.namesWithPrefix start).map FieldName.text := by
    simp [namesWithPrefix, List.filter_map, Function.comp_def]
  rw [withPrefix, hnames, List.mapM_map]
  rfl

/-- Reading all names that begin with `start` reads the first value of each. -/
theorem reading_withPrefix (headers : HeaderMap) (start : Text) :
    Reading (headers.withPrefix start) (∀ name, start <+: name.text → headers.Readable name)
      (headers.pairsWithPrefix start) := by
  have hreading : Reading (headers.withPrefix start)
      (∀ name ∈ headers.namesWithPrefix start, headers.Readable name)
      (headers.pairsWithPrefix start) := by
    rw [withPrefix_eq]
    exact Reading.mapM fun name _ => (headers.reading_lookupOrEmpty name).map _
  refine hreading.congr ⟨?_, fun h name hname => h name (mem_namesWithPrefix.1 hname).1⟩
  intro h name hstart
  by_cases hfirst : headers.first? name = none
  · exact readable_of_none hfirst
  · exact h name (mem_namesWithPrefix.2 ⟨hstart, hfirst⟩)

end HeaderMap

namespace HeaderBlock

/-! ### The lines of the block -/

def lineOf (pair : Text × Text) : Text := pair.1 ++ ':' :: pair.2

/-- One line for each of the service's own fields, in the order of their names. -/
def lines (headers : HeaderMap) : List Text :=
  ((headers.pairsWithPrefix FieldName.servicePrefix).mergeSort pairLe).map lineOf

/-- The lines that the block takes in a string to sign: an empty one where there are no fields. -/
def shownLines (headers : HeaderMap) : List Text :=
  if lines headers = [] then [[]] else lines headers

theorem shownLines_ne_nil (headers : HeaderMap) : shownLines headers ≠ [] := by
  rw [shownLines]
  split
  · simp
  · next h => exact h

theorem join_shownLines (headers : HeaderMap) :
    Text.join ['\n'] (shownLines headers) = Text.join ['\n'] (lines headers) := by
  rw [shownLines]
  split
  · next h =>
      rw [h]
      rfl
  · rfl

theorem reading_ofHeaders (headers : HeaderMap) :
    Reading (ofHeaders headers)
      (∀ name, FieldName.servicePrefix <+: name.text → headers.Readable name)
      (Text.join ['\n'] (shownLines headers)) := by
  have hline : (fun pair : Text × Text => pair.1 ++ [':'] ++ pair.2) = lineOf := by
    funext pair
    rw [lineOf, List.append_assoc]
    rfl
  have hrender : render [':'] ['\n'] (headers.pairsWithPrefix FieldName.servicePrefix)
      = Text.join ['\n'] (shownLines headers) := by
    rw [join_shownLines, lines, render, hline]
  rw [← hrender]
  exact (headers.reading_withPrefix FieldName.servicePrefix).map _

/-- A line begins with the name of one of the service's own fields. -/
theorem exists_of_mem_lines {headers : HeaderMap} {line : Text} (h : line ∈ lines headers) :
    ∃ name, FieldName.servicePrefix <+: name.text
      ∧ line = name.text ++ ':' :: headers.textOf name := by
  obtain ⟨pair, hpair, rfl⟩ := List.mem_map.1 h
  rw [List.mem_mergeSort] at hpair
  obtain ⟨name, hname, rfl⟩ := List.mem_map.1 hpair
  exact ⟨name, (HeaderMap.mem_namesWithPrefix.1 hname).1, rfl⟩

/-- A line of the block holds no newline and does not begin as a resource does. -/
theorem line_spec {headers : HeaderMap} {line : Text} (h : line ∈ lines headers) :
    '\n' ∉ line ∧ line.head? = some 'x' := by
  obtain ⟨name, ⟨rest, hrest⟩, rfl⟩ := exists_of_mem_lines h
  constructor
  · rw [List.mem_append, List.mem_cons]
    rintro (hname | hcolon | hvalue)
    · exact name.notMem_text (by decide) hname
    · exact absurd hcolon (by decide)
    · exact headers.newline_notMem_textOf name hvalue
  · rw [← hrest]
    rfl

theorem shownLine_spec {headers : HeaderMap} {line : Text} (h : line ∈ shownLines headers) :
    '\n' ∉ line ∧ line.head? ≠ some '/' := by
  rw [shownLines] at h
  split at h
  · obtain rfl := List.mem_singleton.1 h
    simp
  · obtain ⟨hnewline, hhead⟩ := line_spec h
    refine ⟨hnewline, ?_⟩
    rw [hhead]
    decide

/-! ### What the lines tell -/

/-- The lines of the block tell its pairs. -/
theorem map_cut_lines (headers : HeaderMap) :
    (lines headers).map (Text.cut ':')
      = ((headers.pairsWithPrefix FieldName.servicePrefix).mergeSort pairLe).map
          fun pair => (pair.1, some pair.2) := by
  rw [lines, List.map_map]
  refine List.map_congr_left ?_
  intro pair hpair
  rw [List.mem_mergeSort] at hpair
  obtain ⟨name, -, rfl⟩ := List.mem_map.1 hpair
  exact Text.cut_append_sep (name.notMem_text (by decide)) _

/-- The lines of two maps are the same exactly when their service's own fields are. -/
theorem lines_eq_iff {headers headers' : HeaderMap} :
    lines headers = lines headers'
      ↔ headers.fieldsWithPrefix FieldName.servicePrefix
        = headers'.fieldsWithPrefix FieldName.servicePrefix := by
  rw [← HeaderMap.pairsWithPrefix_perm_iff, ← linearLe_pairLe.mergeSort_eq_iff]
  constructor
  · intro h
    have hcut := congrArg (List.map (Text.cut ':')) h
    rw [map_cut_lines, map_cut_lines] at hcut
    refine List.map_injective_iff.2 ?_ hcut
    intro p q hpq
    obtain ⟨hname, hvalue⟩ := Prod.mk.inj hpq
    exact Prod.ext hname (Option.some.inj hvalue)
  · intro h
    rw [lines, lines, h]

/-- The shown lines tell the lines, as no line is empty. -/
theorem shownLines_eq_iff {headers headers' : HeaderMap} :
    shownLines headers = shownLines headers' ↔ lines headers = lines headers' := by
  have hempty : ∀ other : HeaderMap, lines other ≠ [[]] := by
    intro other h
    have hhead := (line_spec (h ▸ List.mem_singleton_self [])).2
    cases hhead
  constructor
  · intro h
    rw [shownLines, shownLines] at h
    split at h
    · next hnil =>
        split at h
        · next hnil' => rw [hnil, hnil']
        · exact absurd h.symm (hempty headers')
    · split at h
      · exact absurd h (hempty headers)
      · exact h
  · intro h
    rw [shownLines, shownLines, h]

end HeaderBlock

end SharedKey
