/-
**The lines of the string to sign, their number, and what they tell.**

A string to sign is built exactly when the first values of all header fields that the variant reads
are text.  It is then the join of lines that are written down here for each variant: lines of one
field each, for the variants that are not meant for tables the lines of the service's own fields,
and the resource.

The fields of a variant take one line each, whatever the request: a missing field takes an empty
line, and no value holds a newline.  The service's own fields take one line for each name, and one
empty line where there are none.  The resource takes the lines that it has.  So the number of lines
is known from the variant, the number of names and the resource.

What a signature covers of a request is its signed view.  Two requests with one string to sign have
one signed view, so a signature for the one can not be passed off for the other; and two requests
with one signed view have one string to sign, so what the view leaves out can change without
spoiling the signature.  A newline in a verb could be taken for the end of its line, and a resource
is told from the lines before it by the slash that it begins with: both are assumed there, as
methods are tokens and resources are built with a slash.

Main definitions:

* `StringToSign.fieldsRead`, `StringToSign.Reads` — the header fields that a variant reads;
* `StringToSign.signedLength`, `StringToSign.signedDate` — content length and date as they are
  signed;
* `StringToSign.fieldLines`, `StringToSign.bodyLines` — the lines of one field each, and all lines
  before the resource;
* `HeaderMap.serviceNames` — the service's own names in a header map;
* `StringToSign.linesBefore` — the number of lines before the resource;
* `SignedView` — what each variant signs of a request;
* `SignedView.ofRequest` — the signed view of a request.

Main results:

* `StringToSign.newline_notMem_of_mem_fieldLines` — a field takes one line;
* `StringToSign.reading_build` — **the string to sign is the join of these lines, or fails**;
* `StringToSign.bodyLines_eq_iff`, `StringToSign.build_congr` — what the lines tell of the header
  fields, and what they depend on;
* `HeaderBlock.splitOn_ofHeaders`, `HeaderBlock.length_shownLines` — the lines of the block, and
  their number;
* `StringToSign.splitOn_build` — **the lines of a string to sign, and their number**;
* `StringToSign.bodyLines_append_inj` — the lines before the resource, and the resource, are told
  from the string to sign;
* `StringToSign.eq_iff_signedView_eq` — **two strings to sign are equal exactly when the signed
  views are**.
-/

import Mathlib.Data.Set.Card
import SharedKey.Proofs.HeaderReading
import SharedKey.Signature

set_option relaxedAutoImplicit false
set_option autoImplicit false

namespace SharedKey

namespace StringToSign

/-! ### The fields that are read, and their lines -/

/-- The header fields that a variant reads, apart from the service's own fields.  Content length and
the two dates are read also where they are not signed. -/
def fieldsRead : Variant → List FieldName
  | .sharedKey =>
    [.contentLength, .date, .xMsDate, .contentMd5, .contentType, .contentEncoding,
     .contentLanguage, .ifModifiedSince, .ifMatch, .ifNoneMatch, .ifUnmodifiedSince, .range]
  | .sharedKeyForTable | .sharedKeyLite =>
    [.contentLength, .date, .xMsDate, .contentMd5, .contentType]
  | .sharedKeyLiteForTable => [.contentLength, .date, .xMsDate]

def Reads (variant : Variant) (name : FieldName) : Prop :=
  name ∈ fieldsRead variant ∨ (variant.isTable = false ∧ FieldName.servicePrefix <+: name.text)

/-- What holds of all fields that a variant reads holds of the listed ones and, for the variants
that sign them, of the service's own. -/
theorem forall_reads_iff {variant : Variant} {p : FieldName → Prop} :
    (∀ name, Reads variant name → p name)
      ↔ (∀ name ∈ fieldsRead variant, p name)
        ∧ (variant.isTable = false → ∀ name, FieldName.servicePrefix <+: name.text → p name) := by
  constructor
  · intro h
    exact ⟨fun name hname => h name (.inl hname),
      fun htable name hstart => h name (.inr ⟨htable, hstart⟩)⟩
  · rintro ⟨hlisted, hservice⟩ name (hname | ⟨htable, hstart⟩)
    · exact hlisted name hname
    · exact hservice htable name hstart

/-- The signed length of the content, where the length zero is none. -/
def signedLength (headers : HeaderMap) : Text :=
  if headers.textOf .contentLength = ['0'] then [] else headers.textOf .contentLength

/-- The signed date: the service's own date replaces the common one, and is left to the block by
the variants that sign it there. -/
def signedDate (variant : Variant) (headers : HeaderMap) : Text :=
  if headers.first? .xMsDate = none then headers.textOf .date
  else if variant.isTable then headers.textOf .xMsDate else []

/-- The lines of one field each. -/
def fieldLines (variant : Variant) (verb : Text) (headers : HeaderMap) : List Text :=
  match variant with
  | .sharedKey =>
    [verb, headers.textOf .contentEncoding, headers.textOf .contentLanguage, signedLength headers,
     headers.textOf .contentMd5, headers.textOf .contentType, signedDate variant headers,
     headers.textOf .ifModifiedSince, headers.textOf .ifMatch, headers.textOf .ifNoneMatch,
     headers.textOf .ifUnmodifiedSince, headers.textOf .range]
  | .sharedKeyForTable | .sharedKeyLite =>
    [verb, headers.textOf .contentMd5, headers.textOf .contentType, signedDate variant headers]
  | .sharedKeyLiteForTable => [signedDate variant headers]

theorem fieldLines_ne_nil (variant : Variant) (verb : Text) (headers : HeaderMap) :
    fieldLines variant verb headers ≠ [] := by
  cases variant <;> exact List.cons_ne_nil _ _

/-- All lines before the resource. -/
def bodyLines (variant : Variant) (verb : Text) (headers : HeaderMap) : List Text :=
  fieldLines variant verb headers
    ++ if variant.isTable then [] else HeaderBlock.shownLines headers

/-- No line of a field holds a newline, when the verb holds none. -/
theorem newline_notMem_of_mem_fieldLines {variant : Variant} {verb : Text} {headers : HeaderMap}
    (hverb : '\n' ∉ verb) {line : Text} (h : line ∈ fieldLines variant verb headers) :
    '\n' ∉ line := by
  have htext := headers.newline_notMem_textOf
  have hlength : '\n' ∉ signedLength headers := by
    rw [signedLength]
    split
    · simp
    · exact htext _
  have hdate : '\n' ∉ signedDate variant headers := by
    rw [signedDate]
    split
    · exact htext _
    · split
      · exact htext _
      · simp
  cases variant <;> simp only [fieldLines, List.mem_cons, List.not_mem_nil, or_false] at h
  case sharedKey =>
    rcases h with rfl | rfl | rfl | rfl | rfl | rfl | rfl | rfl | rfl | rfl | rfl | rfl
    all_goals first | assumption | exact htext _
  case sharedKeyForTable =>
    rcases h with rfl | rfl | rfl | rfl
    all_goals first | assumption | exact htext _
  case sharedKeyLite =>
    rcases h with rfl | rfl | rfl | rfl
    all_goals first | assumption | exact htext _
  case sharedKeyLiteForTable => rwa [h]

/-! ### Building it -/

/-- The lines that are computed before the layout is filled in, as they are signed. -/
def signedLines (variant : Variant) (verb : Text) (headers : HeaderMap) (resource : Text) :
    Computed :=
  ⟨verb, signedLength headers, signedDate variant headers,
    if variant.isTable then [] else Text.join ['\n'] (HeaderBlock.shownLines headers), resource⟩

/-- Whether the layout can be filled in with a part. -/
def Part.Readable (headers : HeaderMap) : Part → Prop
  | .field name => headers.Readable name
  | _ => True

/-- The line of a part. -/
def Part.line (headers : HeaderMap) (computed : Computed) : Part → Text
  | .verb => computed.verb
  | .field name => headers.textOf name
  | .contentLength => computed.contentLength
  | .date => computed.date
  | .headerBlock => computed.headerBlock
  | .resource => computed.resource

theorem Part.reading_text (headers : HeaderMap) (computed : Computed) (part : Part) :
    Reading (part.text headers computed) (part.Readable headers) (part.line headers computed) := by
  cases part with
  | field name => exact headers.reading_lookupOrEmpty name
  | verb => exact Reading.ok _
  | contentLength => exact Reading.ok _
  | date => exact Reading.ok _
  | headerBlock => exact Reading.ok _
  | resource => exact Reading.ok _

theorem resolveDate_eq {variant : Variant} {headers : HeaderMap}
    (h : headers.Readable .xMsDate) :
    resolveDate (headers.textOf .date) ((headers.first? .xMsDate).bind FieldValue.text?) variant
      = signedDate variant headers := by
  cases hfirst : headers.first? .xMsDate with
  | none => simp [resolveDate, signedDate, hfirst]
  | some v =>
      obtain ⟨t, ht⟩ := Option.ne_none_iff_exists'.1 (h v hfirst)
      simp [resolveDate, signedDate, HeaderMap.textOf, hfirst, ht]

theorem reading_headerBlock (headers : HeaderMap) (variant : Variant) :
    Reading (headerBlock headers variant)
      (variant.isTable = false →
        ∀ name, FieldName.servicePrefix <+: name.text → headers.Readable name)
      (if variant.isTable then [] else Text.join ['\n'] (HeaderBlock.shownLines headers)) := by
  rw [headerBlock]
  cases htable : variant.isTable with
  | true => exact (Reading.ok _).congr (by simp)
  | false => exact (HeaderBlock.reading_ofHeaders headers).congr (by simp)

/-- The lines that are computed first need content length, both dates, and the block. -/
theorem reading_compute (verb : Text) (headers : HeaderMap) (resource : Text) (variant : Variant) :
    Reading (compute verb headers resource variant)
      (headers.Readable .contentLength ∧ headers.Readable .date ∧ headers.Readable .xMsDate
        ∧ (variant.isTable = false →
          ∀ name, FieldName.servicePrefix <+: name.text → headers.Readable name) ∧ True)
      (signedLines variant verb headers resource) := by
  have hreading : Reading (compute verb headers resource variant)
      (headers.Readable .contentLength ∧ headers.Readable .date ∧ headers.Readable .xMsDate
        ∧ (variant.isTable = false →
          ∀ name, FieldName.servicePrefix <+: name.text → headers.Readable name) ∧ True)
      ⟨verb, shownLength (headers.textOf .contentLength),
        resolveDate (headers.textOf .date) ((headers.first? .xMsDate).bind FieldValue.text?)
          variant,
        if variant.isTable then [] else Text.join ['\n'] (HeaderBlock.shownLines headers),
        resource⟩ := by
    rw [compute]
    refine (headers.reading_lookupOrEmpty .contentLength).bind ?_
    refine (headers.reading_lookupOrEmpty .date).bind ?_
    refine (headers.reading_lookup .xMsDate).bind ?_
    exact (reading_headerBlock headers variant).bind (Reading.ok _)
  refine hreading.congr_answer ?_
  rintro ⟨-, -, hdate, -⟩
  rw [resolveDate_eq hdate]
  rfl

/-- The parts need all header fields that the variant reads. -/
theorem reading_parts (verb : Text) (headers : HeaderMap) (resource : Text) (variant : Variant) :
    Reading (parts verb headers resource variant)
      (∀ name, Reads variant name → headers.Readable name)
      ((layout variant).map
        (Part.line headers (signedLines variant verb headers resource))) := by
  rw [parts]
  refine ((reading_compute verb headers resource variant).bind
    (Reading.mapM fun part _ => Part.reading_text headers _ part)).congr ?_
  rw [forall_reads_iff]
  cases variant <;>
    simp only [layout, fieldsRead, Part.Readable, List.forall_mem_cons, List.not_mem_nil,
      false_implies, implies_true, and_true, true_and, and_assoc, and_left_comm, and_comm]

/-- The string to sign is the join of the lines before the resource and of the resource. -/
theorem reading_build (verb : Text) (headers : HeaderMap) (resource : Text) (variant : Variant) :
    Reading (build verb headers resource variant)
      (∀ name, Reads variant name → headers.Readable name)
      (Text.join ['\n'] (bodyLines variant verb headers ++ [resource])) := by
  have hlines : Text.join ['\n'] ((layout variant).map
      (Part.line headers (signedLines variant verb headers resource)))
        = Text.join ['\n'] (bodyLines variant verb headers ++ [resource]) := by
    have hjoin : Text.join ['\n'] (fieldLines variant verb headers
        ++ Text.join ['\n'] (HeaderBlock.shownLines headers) :: [resource])
          = Text.join ['\n'] (fieldLines variant verb headers
            ++ (HeaderBlock.shownLines headers ++ [resource])) :=
      Text.join_append_join_cons ['\n'] (fieldLines_ne_nil variant verb headers)
        (HeaderBlock.shownLines_ne_nil headers) (List.cons_ne_nil _ _)
    rw [bodyLines, List.append_assoc]
    cases variant with
    | sharedKey => exact hjoin
    | sharedKeyForTable => rfl
    | sharedKeyLite => exact hjoin
    | sharedKeyLiteForTable => rfl
  rw [← hlines]
  exact (reading_parts verb headers resource variant).map _

/-! ### What the lines depend on -/

variable {variant : Variant} {verb verb' : Text} {headers headers' : HeaderMap}

theorem length_fieldLines :
    (fieldLines variant verb headers).length = (fieldLines variant verb' headers').length := by
  cases variant <;> rfl

/-- Equal lines before the resource are equal lines of the fields and equal fields in the block. -/
theorem bodyLines_eq_iff :
    bodyLines variant verb headers = bodyLines variant verb' headers'
      ↔ fieldLines variant verb headers = fieldLines variant verb' headers'
        ∧ (variant.isTable = false →
          headers.fieldsWithPrefix FieldName.servicePrefix
            = headers'.fieldsWithPrefix FieldName.servicePrefix) := by
  have happend : ∀ block block' : List Text,
      fieldLines variant verb headers ++ block = fieldLines variant verb' headers' ++ block'
        ↔ fieldLines variant verb headers = fieldLines variant verb' headers' ∧ block = block' := by
    intro block block'
    constructor
    · intro h
      exact List.append_inj h length_fieldLines
    · rintro ⟨hfields, rfl⟩
      rw [hfields]
  rw [bodyLines, bodyLines, happend]
  cases variant.isTable with
  | true => simp
  | false => simp [HeaderBlock.shownLines_eq_iff, HeaderBlock.lines_eq_iff]

theorem fieldLines_congr
    (h : ∀ name ∈ fieldsRead variant, headers'.first? name = headers.first? name) (verb : Text) :
    fieldLines variant verb headers' = fieldLines variant verb headers := by
  have htext : ∀ name ∈ fieldsRead variant, headers'.textOf name = headers.textOf name := by
    intro name hname
    rw [HeaderMap.textOf, HeaderMap.textOf, h name hname]
  have hlength : signedLength headers' = signedLength headers := by
    have hmem : .contentLength ∈ fieldsRead variant := by cases variant <;> decide
    rw [signedLength, signedLength, htext _ hmem]
  have hdate : signedDate variant headers' = signedDate variant headers := by
    have hdate : .date ∈ fieldsRead variant := by cases variant <;> decide
    have hservice : .xMsDate ∈ fieldsRead variant := by cases variant <;> decide
    rw [signedDate, signedDate, h _ hservice, htext _ hdate, htext _ hservice]
  cases variant <;> simp only [fieldsRead, List.forall_mem_cons] at htext <;>
    simp only [fieldLines, hlength, hdate, htext]

/-- The string to sign depends on the first values that are read only. -/
theorem build_congr
    (h : ∀ name, Reads variant name → headers'.first? name = headers.first? name)
    (verb resource : Text) :
    build verb headers' resource variant = build verb headers resource variant := by
  obtain ⟨hlisted, hservice⟩ := forall_reads_iff.1 h
  have hreadable : ∀ name, Reads variant name →
      (headers'.Readable name ↔ headers.Readable name) := by
    intro name hname
    rw [HeaderMap.Readable, HeaderMap.Readable, h name hname]
  have hfields := fieldLines_congr hlisted verb
  have hblock : variant.isTable = false →
      headers'.fieldsWithPrefix FieldName.servicePrefix
        = headers.fieldsWithPrefix FieldName.servicePrefix := by
    intro htable
    ext ⟨name, t⟩
    simp only [HeaderMap.fieldsWithPrefix, HeaderMap.textOf, Set.mem_ofPred_eq]
    refine and_congr_right fun hstart => ?_
    rw [hservice htable name hstart]
  have hbody := bodyLines_eq_iff.2 ⟨hfields, hblock⟩
  refine ((reading_build verb headers' resource variant).congr
    (forall₂_congr hreadable)).unique ?_ Iff.rfl
  rw [hbody]
  exact reading_build verb headers resource variant

end StringToSign

/-! ### The lines of the block -/

namespace HeaderMap

/-- The service's own names that have a value. -/
def serviceNames (headers : HeaderMap) : Set FieldName :=
  {name | FieldName.servicePrefix <+: name.text ∧ headers.first? name ≠ none}

theorem ncard_serviceNames (headers : HeaderMap) :
    headers.serviceNames.ncard = (headers.namesWithPrefix FieldName.servicePrefix).length := by
  have hnames : headers.serviceNames
      = (headers.namesWithPrefix FieldName.servicePrefix).toFinset := by
    ext name
    rw [List.coe_toFinset, Set.mem_ofPred_eq, mem_namesWithPrefix, serviceNames, Set.mem_ofPred_eq]
  rw [hnames, Set.ncard_coe_finset, List.toFinset_card_of_nodup (headers.nodup_namesWithPrefix _)]

end HeaderMap

namespace HeaderBlock

/-- The block takes one line for each name, and one where there is none. -/
theorem length_shownLines (headers : HeaderMap) :
    (shownLines headers).length = max 1 headers.serviceNames.ncard := by
  have hlines : (lines headers).length = headers.serviceNames.ncard := by
    rw [headers.ncard_serviceNames, lines, List.length_map, List.length_mergeSort,
      HeaderMap.pairsWithPrefix, List.length_map]
  rw [← hlines, shownLines]
  split
  · next hnil => rw [hnil, List.length_singleton, List.length_nil, Nat.max_zero]
  · next hne =>
      have hpos : 0 < (lines headers).length := List.length_pos_of_ne_nil hne
      omega

/-- The lines of the block are those that are shown. -/
theorem splitOn_ofHeaders {headers : HeaderMap} {block : Text} (h : ofHeaders headers = .ok block) :
    block.splitOn '\n' = shownLines headers := by
  obtain rfl := (reading_ofHeaders headers).eq_of_ok h
  exact List.splitOn_intercalate '\n' (fun _ hline => (shownLine_spec hline).1)
    (shownLines_ne_nil headers)

end HeaderBlock

/-! ### The lines of a string to sign -/

namespace StringToSign

/-- The number of lines before the resource where a header map has `k` of the service's own
names. -/
def linesBefore (variant : Variant) (k : Nat) : Nat :=
  match variant with
  | .sharedKey => 12 + max 1 k
  | .sharedKeyForTable => 4
  | .sharedKeyLite => 4 + max 1 k
  | .sharedKeyLiteForTable => 1

variable {variant : Variant} {verb resource text : Text} {headers : HeaderMap}

/-- No line before the resource holds a newline. -/
theorem newline_notMem_of_mem_bodyLines (hverb : '\n' ∉ verb) {line : Text}
    (h : line ∈ bodyLines variant verb headers) : '\n' ∉ line := by
  rw [bodyLines, List.mem_append] at h
  rcases h with hfield | hblock
  · exact newline_notMem_of_mem_fieldLines hverb hfield
  · split at hblock
    · cases hblock
    · exact (HeaderBlock.shownLine_spec hblock).1

theorem length_bodyLines :
    (bodyLines variant verb headers).length = linesBefore variant headers.serviceNames.ncard := by
  have hblock := HeaderBlock.length_shownLines headers
  rw [bodyLines, List.length_append]
  cases variant with
  | sharedKey => exact congrArg (12 + ·) hblock
  | sharedKeyForTable => rfl
  | sharedKeyLite => exact congrArg (4 + ·) hblock
  | sharedKeyLiteForTable => rfl

/-- Where there is a string to sign that covers the block, there is a block. -/
theorem exists_ofHeaders (htable : variant.isTable = false)
    (h : build verb headers resource variant = .ok text) :
    ∃ block, HeaderBlock.ofHeaders headers = .ok block := by
  have hreads := (reading_build verb headers resource variant).exists_ok_iff.1 ⟨text, h⟩
  exact (HeaderBlock.reading_ofHeaders headers).exists_ok_iff.2
    ((forall_reads_iff.1 hreads).2 htable)

/-- **The lines of a string to sign, and their number.** -/
theorem splitOn_build (hverb : '\n' ∉ verb) (h : build verb headers resource variant = .ok text) :
    (variant.isTable = true →
      text.splitOn '\n' = fieldLines variant verb headers ++ resource.splitOn '\n')
    ∧ (variant.isTable = false → ∃ block, HeaderBlock.ofHeaders headers = .ok block
      ∧ (block.splitOn '\n').length = max 1 headers.serviceNames.ncard
      ∧ text.splitOn '\n' = fieldLines variant verb headers
        ++ (block.splitOn '\n' ++ resource.splitOn '\n'))
    ∧ (text.splitOn '\n').length
      = linesBefore variant headers.serviceNames.ncard + (resource.splitOn '\n').length := by
  have hsplit : text.splitOn '\n' = bodyLines variant verb headers ++ resource.splitOn '\n' := by
    rw [(reading_build verb headers resource variant).eq_of_ok h]
    exact Text.splitOn_join_append (fun _ => newline_notMem_of_mem_bodyLines hverb) resource
  refine ⟨?_, ?_, ?_⟩
  · intro htable
    rw [hsplit, bodyLines, if_pos htable, List.append_nil]
  · intro htable
    obtain ⟨block, hblock⟩ := exists_ofHeaders htable h
    have hshown := HeaderBlock.splitOn_ofHeaders hblock
    refine ⟨block, hblock, ?_, ?_⟩
    · rw [hshown, HeaderBlock.length_shownLines]
    · rw [hsplit, hshown, bodyLines, htable, List.append_assoc]
      rfl
  · rw [hsplit, List.length_append, length_bodyLines]

/-- Two of the service's own names, one of them with two values, and a length of zero. -/
def repeatedFields : HeaderMap :=
  ⟨[(⟨"x-ms-b".toList, Eq.refl true⟩, ⟨[0x31], false, Eq.refl true⟩),
    (.contentLength, ⟨[0x30], false, Eq.refl true⟩),
    (⟨"x-ms-a".toList, Eq.refl true⟩, ⟨[0x32], false, Eq.refl true⟩),
    (⟨"x-ms-b".toList, Eq.refl true⟩, ⟨[0x33], false, Eq.refl true⟩)]⟩

/-- Twelve fields, two names and a resource of two lines. -/
theorem splitOn_build_repeated_fields :
    '\n' ∉ "PUT".toList ∧ repeatedFields.serviceNames.ncard = 2
      ∧ ∃ text, build "PUT".toList repeatedFields "/c\n/d".toList .sharedKey = .ok text
        ∧ (text.splitOn '\n').length = 12 + max 1 2 + 2 := by
  have hverb : '\n' ∉ "PUT".toList := by decide
  have hnames : repeatedFields.serviceNames.ncard = 2 := by
    rw [HeaderMap.ncard_serviceNames]
    rfl
  have hreadable : ∀ name, repeatedFields.Readable name :=
    HeaderMap.readable_of_forall (by decide)
  obtain ⟨text, htext⟩ := (reading_build "PUT".toList repeatedFields "/c\n/d".toList
    .sharedKey).exists_ok_iff.2 fun name _ => hreadable name
  have hlength := (splitOn_build hverb htext).2.2
  rw [hnames] at hlength
  exact ⟨hverb, hnames, text, htext, hlength⟩

end StringToSign

/-! ### Signed views -/

/-- What a variant signs of a request.  A header field stands with the text of its first value, and
a missing one with the empty text. -/
inductive SignedView
  | sharedKey (verb contentEncoding contentLanguage contentLength contentMd5 contentType date
      ifModifiedSince ifMatch ifNoneMatch ifUnmodifiedSince range : Text)
      (serviceFields : Set (FieldName × Text)) (resource : Text)
  | sharedKeyForTable (verb contentMd5 contentType date resource : Text)
  | sharedKeyLite (verb contentMd5 contentType date : Text)
      (serviceFields : Set (FieldName × Text)) (resource : Text)
  | sharedKeyLiteForTable (date resource : Text)

/-- The signed view of a request. -/
def SignedView.ofRequest (variant : Variant) (verb : Text) (headers : HeaderMap)
    (resource : Text) : SignedView :=
  let text := headers.textOf
  let length := StringToSign.signedLength headers
  let date := StringToSign.signedDate variant headers
  let service := headers.fieldsWithPrefix FieldName.servicePrefix
  match variant with
  | .sharedKey =>
    .sharedKey verb (text .contentEncoding) (text .contentLanguage) length (text .contentMd5)
      (text .contentType) date (text .ifModifiedSince) (text .ifMatch) (text .ifNoneMatch)
      (text .ifUnmodifiedSince) (text .range) service resource
  | .sharedKeyForTable =>
    .sharedKeyForTable verb (text .contentMd5) (text .contentType) date resource
  | .sharedKeyLite =>
    .sharedKeyLite verb (text .contentMd5) (text .contentType) date service resource
  | .sharedKeyLiteForTable => .sharedKeyLiteForTable date resource

namespace StringToSign

variable {variant : Variant} {verb verb' : Text} {headers headers' : HeaderMap}
  {resource resource' : Text}

/-- Two views are equal exactly when the lines of the fields, the service's own fields where they
are signed, and the resources are. -/
theorem signedView_eq_iff :
    SignedView.ofRequest variant verb headers resource
        = SignedView.ofRequest variant verb' headers' resource'
      ↔ fieldLines variant verb headers = fieldLines variant verb' headers'
        ∧ (variant.isTable = false →
          headers.fieldsWithPrefix FieldName.servicePrefix
            = headers'.fieldsWithPrefix FieldName.servicePrefix)
        ∧ resource = resource' := by
  cases variant <;>
    simp [SignedView.ofRequest, fieldLines, Variant.isTable, and_assoc]

/-! ### Taking a string to sign apart -/

/-- The lines before the resource, and the resource, are told from the string to sign. -/
theorem bodyLines_append_inj (hverb : '\n' ∉ verb) (hverb' : '\n' ∉ verb')
    (hresource : resource.head? = some '/') (hresource' : resource'.head? = some '/')
    (h : Text.join ['\n'] (bodyLines variant verb headers ++ [resource])
      = Text.join ['\n'] (bodyLines variant verb' headers' ++ [resource'])) :
    bodyLines variant verb headers = bodyLines variant verb' headers' ∧ resource = resource' := by
  -- the lines of the fields are known by their number, those of the block by their beginning
  rw [bodyLines, bodyLines, List.append_assoc, List.append_assoc] at h
  obtain ⟨hfields, hrest⟩ := Text.join_append_inj
    (fun _ => newline_notMem_of_mem_fieldLines hverb)
    (fun _ => newline_notMem_of_mem_fieldLines hverb') length_fieldLines (by simp) (by simp) h
  have hblock : ∀ other : HeaderMap,
      ∀ line ∈ (if variant.isTable then [] else HeaderBlock.shownLines other),
        '\n' ∉ line ∧ line.head? ≠ some '/' := by
    intro other line hline
    split at hline
    · cases hline
    · exact HeaderBlock.shownLine_spec hline
  obtain ⟨hlines, rfl⟩ := Text.join_body_inj (by decide) (hblock headers) (hblock headers')
    hresource hresource' hrest
  rw [bodyLines, bodyLines, hfields, hlines]
  exact ⟨rfl, rfl⟩

/-- **Two strings to sign are equal exactly when the signed views are.** -/
theorem eq_iff_signedView_eq {text text' : Text} (hverb : '\n' ∉ verb) (hverb' : '\n' ∉ verb')
    (hresource : resource.head? = some '/') (hresource' : resource'.head? = some '/')
    (htext : build verb headers resource variant = .ok text)
    (htext' : build verb' headers' resource' variant = .ok text') :
    text = text' ↔ SignedView.ofRequest variant verb headers resource
      = SignedView.ofRequest variant verb' headers' resource' := by
  obtain rfl := (reading_build verb headers resource variant).eq_of_ok htext
  obtain rfl := (reading_build verb' headers' resource' variant).eq_of_ok htext'
  rw [signedView_eq_iff, ← and_assoc, ← bodyLines_eq_iff]
  constructor
  · exact bodyLines_append_inj hverb hverb' hresource hresource'
  · rintro ⟨hbody, rfl⟩
    rw [hbody]

/-! ### Two requests with one view -/

def fieldA : FieldName := ⟨"x-ms-a".toList, by decide⟩

def fieldB : FieldName := ⟨"x-ms-b".toList, by decide⟩

def valueOne : FieldValue := ⟨[0x31], false, by decide⟩

def valueTwo : FieldValue := ⟨[0x32], false, by decide⟩

/-- Two of the service's own fields against their order. -/
def fieldsBA : HeaderMap := ⟨[(fieldB, valueOne), (fieldA, valueTwo)]⟩

/-- The same fields in their order, with a later value and a field that is not signed. -/
def fieldsAB : HeaderMap :=
  ⟨[(fieldA, valueTwo), (.range, valueOne), (fieldB, valueOne), (fieldA, valueOne)]⟩

/-- Two requests with one string to sign, whose resource holds a newline, have one view. -/
theorem eq_iff_signedView_eq_reordered :
    '\n' ∉ "GET".toList ∧ "/c\n/d".toList.head? = some '/'
      ∧ build "GET".toList fieldsBA "/c\n/d".toList .sharedKeyLite
        = .ok "GET\n\n\n\nx-ms-a:2\nx-ms-b:1\n/c\n/d".toList
      ∧ build "GET".toList fieldsAB "/c\n/d".toList .sharedKeyLite
        = .ok "GET\n\n\n\nx-ms-a:2\nx-ms-b:1\n/c\n/d".toList
      ∧ SignedView.ofRequest .sharedKeyLite "GET".toList fieldsBA "/c\n/d".toList
        = SignedView.ofRequest .sharedKeyLite "GET".toList fieldsAB "/c\n/d".toList := by
  have hverb : '\n' ∉ "GET".toList := by decide
  have hresource : "/c\n/d".toList.head? = some '/' := rfl
  have hpairs : fieldsBA.withPrefix FieldName.servicePrefix
      = .ok [("x-ms-b".toList, "1".toList), ("x-ms-a".toList, "2".toList)] := by decide
  have hpairs' : fieldsAB.withPrefix FieldName.servicePrefix
      = .ok [("x-ms-a".toList, "2".toList), ("x-ms-b".toList, "1".toList)] := by decide
  have hblock : HeaderBlock.ofHeaders fieldsBA = .ok "x-ms-a:2\nx-ms-b:1".toList := by
    rw [HeaderBlock.ofHeaders, hpairs, Except.map,
      HeaderBlock.render_of_perm _ _ (.swap _ _ _) (by decide)]
    rfl
  have hblock' : HeaderBlock.ofHeaders fieldsAB = .ok "x-ms-a:2\nx-ms-b:1".toList := by
    rw [HeaderBlock.ofHeaders, hpairs', Except.map,
      HeaderBlock.render_of_perm _ _ (.refl _) (by decide)]
    rfl
  have htext : build "GET".toList fieldsBA "/c\n/d".toList .sharedKeyLite
      = .ok "GET\n\n\n\nx-ms-a:2\nx-ms-b:1\n/c\n/d".toList := by
    rw [build, parts, compute, headerBlock, if_neg (by decide), hblock]
    rfl
  have htext' : build "GET".toList fieldsAB "/c\n/d".toList .sharedKeyLite
      = .ok "GET\n\n\n\nx-ms-a:2\nx-ms-b:1\n/c\n/d".toList := by
    rw [build, parts, compute, headerBlock, if_neg (by decide), hblock']
    rfl
  exact ⟨hverb, hresource, htext, htext',
    (eq_iff_signedView_eq hverb hverb hresource hresource htext htext').1 rfl⟩

end StringToSign

end SharedKey
