/-
**Lines, blanks and boundaries: how texts are taken apart.**

Joining lines forgets where each of them ended, unless none of them holds the separator.  Here the
last part may hold it, as a canonicalized resource may hold newlines; what stands before is then
found again if its number of lines is known, or if no line before begins with the character that
the last part begins with.

Trimming takes blanks away at the two ends of a text and nothing else.  So a text may stand between
any blanks and is trimmed alike; and as lowercasing makes no character blank or visible, it does not
matter which of the two is done first.

A byte offset is a boundary of a text when a character begins there, or the text ends.  The byte at
an offset tells which of the two it is not: UTF-8 begins characters with bytes that it does not use
inside of them.  So a text can be split at an offset exactly when the byte there says so.  The same
property makes the ends of a text readable on their own: a beginning of its bytes that is a text is
a beginning of the text, and so is an end of its bytes that is a text an end of it, whatever stands
in between.

Main definitions:

* `Text.AllBlank` — the texts that consist of blanks;
* `Text.isBoundary` — whether a character begins at a byte offset, or the text ends there.

Main results:

* `Text.notMem_join` — what stands in no line and not between them stands nowhere;
* `Text.cut_append_sep`, `Text.append_sep_inj` — a line is told from what follows its separator;
* `Text.cut_of_notMem` — a text without the separator is not cut;
* `Text.join_append_inj` — so are any number of lines, when their number is known;
* `Text.splitOn_join_append` — splitting gives the lines, and the lines of the last part;
* `Text.join_body_inj` — and lines of unknown number before a last part that is marked by its first
  character;
* `Text.trim_eq_nil_iff` — of blanks alone nothing is left;
* `Text.exists_eq_append_trim` — what is left stands between blanks in the text;
* `Text.trim_append`, `Text.trim_trim` — **blanks around a text do not change its trimming**;
* `Text.trim_lowercase` — trimming and lowercasing commute;
* `Text.splitAtByte?_ne_none_iff` — **a text is split at its boundaries, and nowhere else**;
* `Text.prefix_of_utf8`, `Text.suffix_of_utf8` — the beginnings and the ends of a text
  from those of its bytes.
-/

import Mathlib.Data.List.TakeWhile
import SharedKey.Text

set_option relaxedAutoImplicit false
set_option autoImplicit false

namespace SharedKey

/-! ### Joined lines -/

namespace Text

theorem join_cons_of_ne_nil (sep line : Text) {parts : List Text} (h : parts ≠ []) :
    join sep (line :: parts) = line ++ sep ++ join sep parts :=
  List.intercalate_cons_of_ne_nil h

/-- Joining two lists puts one separator between their joins. -/
theorem join_append (sep : Text) {parts parts' : List Text} (h : parts ≠ []) (h' : parts' ≠ []) :
    join sep (parts ++ parts') = join sep parts ++ sep ++ join sep parts' := by
  induction parts with
  | nil => exact absurd rfl h
  | cons line parts ih =>
      by_cases hparts : parts = []
      · subst hparts
        rw [List.singleton_append, join_cons_of_ne_nil _ _ h']
        simp [join]
      · have hne : parts ++ parts' ≠ [] := by simp [h']
        rw [List.cons_append, join_cons_of_ne_nil _ _ hne, ih hparts,
          join_cons_of_ne_nil _ _ hparts]
        simp only [List.append_assoc]

/-- Lines that have been joined before may as well be joined with the others. -/
theorem join_append_join_cons (sep : Text) {before middle after : List Text} (hb : before ≠ [])
    (hm : middle ≠ []) (ha : after ≠ []) :
    join sep (before ++ join sep middle :: after) = join sep (before ++ (middle ++ after)) := by
  have hcons : join sep middle :: after ≠ [] := by simp
  have hma : middle ++ after ≠ [] := by simp [hm]
  rw [join_append _ hb hcons, join_append _ hb hma, join_append _ hm ha,
    join_cons_of_ne_nil _ _ ha]

/-- What stands in no line and not between them stands nowhere. -/
theorem notMem_join {sep : Text} {parts : List Text} {c : Char} (hsep : c ∉ sep)
    (h : ∀ line ∈ parts, c ∉ line) : c ∉ join sep parts := by
  induction parts with
  | nil => exact List.not_mem_nil
  | cons line parts ih =>
      obtain ⟨hline, hparts⟩ := List.forall_mem_cons.1 h
      by_cases hnil : parts = []
      · subst hnil
        simpa [join] using hline
      · rw [join_cons_of_ne_nil _ _ hnil, List.mem_append, List.mem_append]
        rintro ((hmem | hmem) | hmem)
        · exact hline hmem
        · exact hsep hmem
        · exact ih hparts hmem

theorem bne_of_notMem {sep : Char} {line : Text} (h : sep ∉ line) :
    ∀ c ∈ line, (c != sep) = true := by
  intro c hc
  rw [bne_iff_ne]
  rintro rfl
  exact h hc

theorem cut_append_sep {sep : Char} {line : Text} (h : sep ∉ line) (rest : Text) :
    cut sep (line ++ sep :: rest) = (line, some rest) := by
  rw [cut, List.takeWhile_append_of_pos (bne_of_notMem h),
    List.dropWhile_append_of_pos (bne_of_notMem h)]
  simp

/-- A text without the separator is not cut. -/
theorem cut_of_notMem {sep : Char} {line : Text} (h : sep ∉ line) :
    cut sep line = (line, none) := by
  rw [cut, List.takeWhile_eq_self_iff.2 (bne_of_notMem h),
    List.dropWhile_eq_nil_iff.2 (bne_of_notMem h)]

/-- A line is told from what follows its separator. -/
theorem append_sep_inj {sep : Char} {line line' rest rest' : Text} (hline : sep ∉ line)
    (hline' : sep ∉ line') (h : line ++ sep :: rest = line' ++ sep :: rest') :
    line = line' ∧ rest = rest' := by
  have hcut := congrArg (cut sep) h
  rw [cut_append_sep hline, cut_append_sep hline', Prod.mk.injEq, Option.some.injEq] at hcut
  exact hcut

/-- A known number of lines is told from what follows them. -/
theorem join_append_inj {sep : Char} {lines lines' rest rest' : List Text}
    (hlines : ∀ line ∈ lines, sep ∉ line) (hlines' : ∀ line ∈ lines', sep ∉ line)
    (hlength : lines.length = lines'.length) (hrest : rest ≠ []) (hrest' : rest' ≠ [])
    (h : join [sep] (lines ++ rest) = join [sep] (lines' ++ rest')) :
    lines = lines' ∧ join [sep] rest = join [sep] rest' := by
  induction lines generalizing lines' with
  | nil =>
      obtain rfl : lines' = [] := List.eq_nil_of_length_eq_zero hlength.symm
      exact ⟨rfl, h⟩
  | cons line lines ih =>
      cases lines' with
      | nil => simp at hlength
      | cons line' lines' =>
          have hne : lines ++ rest ≠ [] := by simp [hrest]
          have hne' : lines' ++ rest' ≠ [] := by simp [hrest']
          rw [List.cons_append, List.cons_append, join_cons_of_ne_nil _ _ hne,
            join_cons_of_ne_nil _ _ hne', List.append_assoc, List.append_assoc] at h
          obtain ⟨rfl, htail⟩ := append_sep_inj (hlines line List.mem_cons_self)
            (hlines' line' List.mem_cons_self) h
          obtain ⟨rfl, hjoin⟩ := ih (fun l hl => hlines l (List.mem_cons_of_mem _ hl))
            (fun l hl => hlines' l (List.mem_cons_of_mem _ hl)) (by simpa using hlength) htail
          exact ⟨rfl, hjoin⟩

/-- Splitting finds the lines again, and splits the last part further. -/
theorem splitOn_join_append {sep : Char} {lines : List Text} (h : ∀ line ∈ lines, sep ∉ line)
    (last : Text) : (join [sep] (lines ++ [last])).splitOn sep = lines ++ last.splitOn sep := by
  induction lines with
  | nil => simp [join]
  | cons line lines ih =>
      obtain ⟨hline, hlines⟩ := List.forall_mem_cons.1 h
      rw [List.cons_append, join_cons_of_ne_nil _ _ (by simp), List.append_assoc,
        List.singleton_append, List.splitOn_append_cons_self_of_not_mem hline, ih hlines,
        List.cons_append]

/-- A last part that begins with `mark` does not begin with a line that has another beginning. -/
theorem ne_append_sep_of_head? {sep mark : Char} {line rest last : Text} (hmark : mark ≠ sep)
    (hline : line.head? ≠ some mark) (hlast : last.head? = some mark) :
    last ≠ line ++ sep :: rest := by
  rintro rfl
  cases line with
  | nil => exact hmark (by simpa using hlast.symm)
  | cons c line => exact hline (by simpa using hlast)

/-- Lines of unknown number are told from a last part that begins with `mark`, when none of them
does. -/
theorem join_body_inj {sep mark : Char} {body body' : List Text} {last last' : Text}
    (hmark : mark ≠ sep) (hbody : ∀ line ∈ body, sep ∉ line ∧ line.head? ≠ some mark)
    (hbody' : ∀ line ∈ body', sep ∉ line ∧ line.head? ≠ some mark)
    (hlast : last.head? = some mark) (hlast' : last'.head? = some mark)
    (h : join [sep] (body ++ [last]) = join [sep] (body' ++ [last'])) :
    body = body' ∧ last = last' := by
  have hcons : ∀ (line : Text) (lines : List Text) (final : Text),
      join [sep] (line :: lines ++ [final]) = line ++ sep :: join [sep] (lines ++ [final]) := by
    intro line lines final
    rw [List.cons_append, join_cons_of_ne_nil _ _ (by simp), List.append_assoc]
    rfl
  have hnil : ∀ final : Text, join [sep] ([] ++ [final]) = final := by
    intro final
    simp [join]
  induction body generalizing body' with
  | nil =>
      cases body' with
      | nil =>
          rw [hnil, hnil] at h
          exact ⟨rfl, h⟩
      | cons line' body' =>
          rw [hnil, hcons] at h
          exact absurd h (ne_append_sep_of_head? hmark (hbody' line' List.mem_cons_self).2 hlast)
  | cons line body ih =>
      cases body' with
      | nil =>
          rw [hnil, hcons] at h
          exact absurd h.symm
            (ne_append_sep_of_head? hmark (hbody line List.mem_cons_self).2 hlast')
      | cons line' body' =>
          rw [hcons, hcons] at h
          obtain ⟨rfl, htail⟩ := append_sep_inj (hbody line List.mem_cons_self).1
            (hbody' line' List.mem_cons_self).1 h
          obtain ⟨rfl, rfl⟩ := ih (fun l hl => hbody l (List.mem_cons_of_mem _ hl))
            (fun l hl => hbody' l (List.mem_cons_of_mem _ hl)) htail
          exact ⟨rfl, rfl⟩

end Text

/-- Of blanks alone nothing is left. -/
theorem Text.trim_eq_nil_iff {t : Text} : trim t = [] ↔ ∀ c ∈ t, isBlank c = true := by
  rw [trim, trimEnd, List.reverse_eq_nil_iff, List.dropWhile_eq_nil_iff]
  simp only [List.mem_reverse, trimStart]
  constructor
  · intro h
    -- what is left at the beginning would begin with a character that is no blank
    cases hdrop : t.dropWhile isBlank with
    | nil => exact List.dropWhile_eq_nil_iff.1 hdrop
    | cons c rest =>
        have hhead := List.head?_dropWhile_not isBlank t
        rw [hdrop] at h hhead
        have hblank := h c List.mem_cons_self
        simp [hblank] at hhead
  · intro h c hc
    exact h c ((List.dropWhile_sublist _).subset hc)

namespace Text

/-! ### Blanks around a text -/

/-- Every character is a blank. -/
def AllBlank (t : Text) : Prop := ∀ c ∈ t, isBlank c = true

/-- Trimming takes blanks away at the two ends. -/
theorem exists_eq_append_trim (t : Text) :
    ∃ before after, AllBlank before ∧ AllBlank after ∧ t = before ++ trim t ++ after := by
  have hblank : ∀ s : Text, AllBlank (s.takeWhile isBlank) :=
    fun s c hc => List.mem_takeWhile_imp hc
  refine ⟨t.takeWhile isBlank, ((trimStart t).reverse.takeWhile isBlank).reverse, hblank t, ?_, ?_⟩
  · intro c hc
    exact hblank _ c (List.mem_reverse.1 hc)
  · have hend : trim t ++ ((trimStart t).reverse.takeWhile isBlank).reverse = trimStart t := by
      rw [trim, trimEnd, ← List.reverse_append, List.takeWhile_append_dropWhile,
        List.reverse_reverse]
    rw [List.append_assoc, hend, trimStart, List.takeWhile_append_dropWhile]

/-- Blanks at the end are taken away with those before them. -/
theorem trimEnd_append {after : Text} (hafter : AllBlank after) (t : Text) :
    trimEnd (t ++ after) = trimEnd t := by
  rw [trimEnd, trimEnd, List.reverse_append, List.dropWhile_append_of_pos]
  intro c hc
  exact hafter c (List.mem_reverse.1 hc)

/-- Blanks around a text do not change its trimming. -/
theorem trim_append {before t after : Text} (hbefore : AllBlank before) (hafter : AllBlank after) :
    trim (before ++ t ++ after) = trim t := by
  by_cases ht : AllBlank t
  · rw [trim_eq_nil_iff.2 ht, trim_eq_nil_iff]
    exact List.forall_mem_append.2 ⟨List.forall_mem_append.2 ⟨hbefore, ht⟩, hafter⟩
  · -- the blanks after the text are reached from the end only, as something stands before them
    have hstart : trimStart (before ++ (t ++ after)) = trimStart t ++ after := by
      rw [trimStart, List.dropWhile_append_of_pos hbefore, List.dropWhile_append, if_neg, trimStart]
      rw [List.isEmpty_iff, List.dropWhile_eq_nil_iff]
      exact ht
    rw [List.append_assoc, trim, hstart, trimEnd_append hafter, trim]

/-- Trimming twice is trimming once. -/
@[simp] theorem trim_trim (t : Text) : trim (trim t) = trim t := by
  obtain ⟨before, after, hbefore, hafter, ht⟩ := exists_eq_append_trim t
  calc trim (trim t) = trim (before ++ trim t ++ after) := (trim_append hbefore hafter).symm
    _ = trim t := by rw [← ht]

/-! ### Letter case -/

/-- Lowercasing makes no character blank, and no blank a letter. -/
theorem isBlank_toLower (c : Char) : isBlank c.toLower = isBlank c := by
  rcases toLower_cases c with hself | ⟨n, hn, rfl, hlower⟩
  · rw [hself]
  · have hletters : ∀ n < 26, isBlank (Char.ofNat (97 + n)) = isBlank (Char.ofNat (65 + n)) := by
      decide
    rw [hlower, hletters n hn]

/-- Trimming and lowercasing commute. -/
theorem trim_lowercase (t : Text) : trim (lowercase t) = lowercase (trim t) := by
  have hdrop : ∀ s : Text, (s.map Char.toLower).dropWhile isBlank
      = (s.dropWhile isBlank).map Char.toLower := by
    intro s
    rw [List.dropWhile_map]
    exact congrArg (fun p => (s.dropWhile p).map Char.toLower) (funext isBlank_toLower)
  rw [trim, trimEnd, lowercase, trimStart, hdrop, ← List.map_reverse, hdrop, ← List.map_reverse]
  rfl

/-! ### Boundaries of characters -/

/-- Whether a character begins at a byte offset, or the text ends there.  Beyond its end a text has
no boundaries. -/
def isBoundary (t : Text) (n : Nat) : Bool :=
  match (utf8 t)[n]? with
  | some b => decide b.IsUTF8FirstByte
  | none => n == byteLength t

@[simp] theorem byteLength_append (s t : Text) :
    byteLength (s ++ t) = byteLength s + byteLength t := by
  simp only [byteLength, utf8_append, List.length_append]

/-- A character takes at least one byte. -/
theorem length_le_byteLength (t : Text) : t.length ≤ byteLength t := by
  induction t with
  | nil => exact Nat.le_refl 0
  | cons c t ih =>
      have hc := c.utf8Size_pos
      rw [List.length_cons, byteLength_cons]
      omega

/-- An ASCII character takes one. -/
theorem byteLength_of_ascii {t : Text} (h : ∀ c ∈ t, c.toNat < 0x80) :
    byteLength t = t.length := by
  induction t with
  | nil => rfl
  | cons c t ih =>
      have hc : c.utf8Size = 1 :=
        Char.utf8Size_eq_one_iff.2
          (UInt32.le_iff_toNat_le.2 (Nat.le_of_lt_succ (h c List.mem_cons_self)))
      rw [byteLength_cons, hc, ih fun d hd => h d (List.mem_cons_of_mem c hd), List.length_cons,
        Nat.add_comm]

/-! ### Splitting -/

/-- Inside of the first character there is no boundary but its beginning. -/
theorem isBoundary_cons_of_lt {c : Char} {n : Nat} (h : n < c.utf8Size) (t : Text) :
    isBoundary (c :: t) n = true ↔ n = 0 := by
  have hlength : n < (String.utf8EncodeChar c).length := by
    rwa [String.length_utf8EncodeChar]
  rw [isBoundary, utf8_cons, List.getElem?_append_left hlength, List.getElem?_eq_getElem hlength,
    decide_eq_true_eq, UInt8.isUTF8FirstByte_getElem_utf8EncodeChar]

/-- A text begins at a boundary. -/
theorem isBoundary_zero (t : Text) : isBoundary t 0 = true := by
  cases t with
  | nil => rfl
  | cons c t => exact (isBoundary_cons_of_lt c.utf8Size_pos t).2 rfl

/-- Behind any bytes the boundaries are those of the text that follows them. -/
theorem isBoundary_of_utf8_eq {before : Bytes} {s t : Text} (h : utf8 t = before ++ utf8 s)
    (n : Nat) : isBoundary t (before.length + n) = isBoundary s n := by
  rw [isBoundary, isBoundary, h, List.getElem?_append_right (Nat.le_add_right _ _),
    Nat.add_sub_cancel_left]
  cases (utf8 s)[n]? with
  | some b => rfl
  | none =>
      have hlength : byteLength t = before.length + byteLength s := by
        rw [byteLength, h, List.length_append]
        rfl
      rw [Bool.eq_iff_iff, beq_iff_eq, beq_iff_eq]
      omega

theorem isBoundary_cons_of_le {c : Char} {n : Nat} (h : c.utf8Size ≤ n) (t : Text) :
    isBoundary (c :: t) n = isBoundary t (n - c.utf8Size) := by
  have hbehind := isBoundary_of_utf8_eq (utf8_cons c t) (n - c.utf8Size)
  rwa [String.length_utf8EncodeChar, Nat.add_sub_cancel' h] at hbehind

/-- **A text is split at its boundaries, and nowhere else.** -/
theorem splitAtByte?_ne_none_iff {t : Text} {n : Nat} :
    splitAtByte? t n ≠ none ↔ isBoundary t n = true := by
  induction t, n using splitAtByte?.induct with
  | case1 t =>
      rw [splitAtByte?]
      exact iff_of_true (Option.some_ne_none _) (isBoundary_zero t)
  | case2 n => exact iff_of_false (fun h => h rfl) Bool.false_ne_true
  | case3 c t n hle ih =>
      rw [isBoundary_cons_of_le hle, ← ih, splitAtByte?, if_pos hle, ne_eq, Option.map_eq_none_iff]
  | case4 c t n hle =>
      rw [isBoundary_cons_of_lt (Nat.lt_of_not_le hle), splitAtByte?, if_neg hle]
      simp

/-- A text is split behind any beginning of it. -/
theorem splitAtByte?_byteLength (first last : Text) :
    splitAtByte? (first ++ last) (byteLength first) = some (first, last) := by
  induction first with
  | nil => simp [splitAtByte?]
  | cons c first ih =>
      have hc := c.utf8Size_pos
      obtain ⟨n, hn⟩ : ∃ n, byteLength (c :: first) = n + 1 :=
        ⟨c.utf8Size + byteLength first - 1, by rw [byteLength_cons]; omega⟩
      have hrest : n + 1 - c.utf8Size = byteLength first := by
        rw [← hn, byteLength_cons, Nat.add_sub_cancel_left]
      have hle : c.utf8Size ≤ n + 1 := by
        rw [← hn, byteLength_cons]
        omega
      rw [hn, List.cons_append, splitAtByte?, if_pos hle, hrest, ih]
      rfl

/-! ### Ends -/

/-- The first bytes tell the first character. -/
theorem char_eq_of_append_eq {c d : Char} {rest rest' : Bytes}
    (h : String.utf8EncodeChar c ++ rest = String.utf8EncodeChar d ++ rest') : c = d := by
  have hdecode : ∀ (e : Char) (after : Bytes),
      (String.utf8EncodeChar e ++ after).toByteArray.utf8DecodeChar? 0 = some e := by
    intro e after
    rw [List.toByteArray_append]
    exact ByteArray.utf8DecodeChar?_utf8EncodeChar_append
  have hc := hdecode c rest
  rw [h, hdecode d rest'] at hc
  exact (Option.some.inj hc).symm

/-- A beginning of the bytes of a text that is a text is a beginning of the text. -/
theorem prefix_of_utf8 {s t : Text} (h : utf8 s <+: utf8 t) : s <+: t := by
  induction s generalizing t with
  | nil => exact List.nil_prefix
  | cons c s ih =>
      obtain ⟨rest, hrest⟩ := h
      rw [utf8_cons, List.append_assoc] at hrest
      cases t with
      | nil => exact absurd (List.append_eq_nil_iff.1 hrest).1 String.utf8EncodeChar_ne_nil
      | cons d t =>
          obtain rfl := char_eq_of_append_eq hrest
          exact (List.prefix_cons_inj c).2 (ih ⟨rest, List.append_cancel_left hrest⟩)

/-- An end of the bytes of a text that is a text is an end of the text. -/
theorem suffix_of_utf8 {s t : Text} (h : utf8 s <:+ utf8 t) : s <:+ t := by
  obtain ⟨before, hbefore⟩ := h
  have hboundary : isBoundary t before.length = true :=
    (isBoundary_of_utf8_eq hbefore.symm 0).trans (isBoundary_zero s)
  obtain ⟨⟨first, last⟩, hsplit⟩ := Option.ne_none_iff_exists'.1
    (splitAtByte?_ne_none_iff.2 hboundary)
  obtain ⟨rfl, hlength⟩ := splitAtByte?_append hsplit
  rw [utf8_append] at hbefore
  obtain ⟨-, hlast⟩ := List.append_inj hbefore hlength.symm
  obtain rfl := utf8_injective hlast
  exact List.suffix_append first s

end Text

end SharedKey
