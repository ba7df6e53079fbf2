/-
**The order by bytes is linear, so sorting and rendering by it are canonical.**

`SharedKey/Text.lean` orders texts by their UTF-8 bytes, and `SharedKey/Header.lean` orders pairs of
texts by that.  Both orders are linear: any two members can be compared, and two that precede each
other are equal.  A list has one sorted form under such an order, whatever the sequence in which its
members were given, and that form tells the members with their number.

Pairs of names and values are rendered in ascending order: by the bytes of their names, and by the
bytes of their values where the names are equal.  There is one such arrangement of a list, in which
each pair stands as often as in the list.  The rendering is what is left when the arranged pairs are
written one after the other, with the joint before each of them but the first.

Main definitions:

* `LinearLe` — a comparison that is a linear order;
* `HeaderBlock.Precedes` — the order of pairs, in the lexicographic order of byte sequences;
* `HeaderBlock.Arranges` — a list with the members of another one, in ascending order;
* `HeaderBlock.Rendered` — the texts that are pairs with joints between them;
* `HeaderBlock.write`, `HeaderBlock.writeAll` — writing one more pair, and all of them.

Main results:

* `Bytes.le_iff` — bytes are compared as lists are;
* `Text.linearLe`, `HeaderBlock.linearLe_pairLe` — the two orders are linear;
* `LinearLe.mergeSort_eq_iff` — **two lists sort alike exactly when they are permutations of each
  other**;
* `nodup_eraseDups` — a list without its repetitions holds each member once;
* `HeaderBlock.pairLe_iff_precedes` — pairs are compared by this order;
* `HeaderBlock.arranges_iff` — a list has one arrangement, and sorting finds it;
* `HeaderBlock.rendered_write`, `HeaderBlock.rendered_writeAll` — what one more pair leaves, and
  what all of them leave;
* `HeaderBlock.render_canonical` — **the rendering is that of the only arrangement, and every
  permutation has the same**.
-/

import Mathlib.Data.List.Count
import Mathlib.Data.List.Induction
import SharedKey.Header
import SharedKey.Proofs.Text

set_option relaxedAutoImplicit false
set_option autoImplicit false

namespace SharedKey

/-! ### Linear orders -/

/-- A comparison that is a linear order. -/
structure LinearLe {α : Type} (le : α → α → Bool) : Prop where
  total : ∀ a b, (le a b || le b a) = true
  trans : ∀ a b c, le a b = true → le b c = true → le a c = true
  antisymm : ∀ a b, le a b = true → le b a = true → a = b

namespace LinearLe

variable {α : Type} {le : α → α → Bool}

theorem le_or_le (h : LinearLe le) (a b : α) : le a b = true ∨ le b a = true := by
  have htotal := h.total a b
  rwa [Bool.or_eq_true] at htotal

theorem le_refl (h : LinearLe le) (a : α) : le a a = true := (h.le_or_le a a).elim id id

theorem pairwise_mergeSort (h : LinearLe le) (l : List α) :
    (l.mergeSort le).Pairwise fun a b => le a b = true :=
  List.pairwise_mergeSort h.trans h.total l

/-- Two lists sort alike exactly when they are permutations of each other. -/
theorem mergeSort_eq_iff (h : LinearLe le) {l l' : List α} :
    l.mergeSort le = l'.mergeSort le ↔ l.Perm l' := by
  have hl : (l.mergeSort le).Perm l := List.mergeSort_perm l le
  have hl' : (l'.mergeSort le).Perm l' := List.mergeSort_perm l' le
  constructor
  · intro heq
    exact hl.symm.trans (heq ▸ hl')
  · intro hperm
    refine List.Perm.eq_of_pairwise ?_ (h.pairwise_mergeSort l) (h.pairwise_mergeSort l')
      (hl.trans (hperm.trans hl'.symm))
    intro a b _ _ hab hba
    exact h.antisymm a b hab hba

end LinearLe

/-! ### Byte sequences -/

namespace Bytes

theorem le_cons_cons {a b : UInt8} {s t : Bytes} :
    le (a :: s) (b :: t) = true ↔ a.toNat < b.toNat ∨ a = b ∧ le s t = true := by
  simp [le]

/-- The order of byte sequences is the lexicographic one of lists. -/
theorem le_iff {s t : Bytes} : le s t = true ↔ s ≤ t := by
  induction s generalizing t with
  | nil => simp [le]
  | cons a s ih =>
      cases t with
      | nil => simp [le]
      | cons b t => rw [le_cons_cons, List.cons_le_cons_iff, UInt8.lt_iff_toNat_lt, ih]

theorem linearLe : LinearLe le where
  total s t := by
    rw [Bool.or_eq_true, le_iff, le_iff]
    exact List.le_total s t
  trans s t u := by
    rw [le_iff, le_iff, le_iff]
    exact List.le_trans
  antisymm s t := by
    rw [le_iff, le_iff]
    exact List.le_antisymm

end Bytes

/-! ### Texts and pairs of texts -/

theorem Text.linearLe : LinearLe Text.le where
  total s t := Bytes.linearLe.total (Text.utf8 s) (Text.utf8 t)
  trans _ _ _ := Bytes.linearLe.trans _ _ _
  antisymm _ _ hst hts := Text.utf8_injective (Bytes.linearLe.antisymm _ _ hst hts)

/-- One pair precedes another by its name, or by its value where the names are equal. -/
theorem HeaderBlock.pairLe_iff {p q : Text × Text} :
    HeaderBlock.pairLe p q = true
      ↔ (p.1 ≠ q.1 ∧ Text.le p.1 q.1 = true) ∨ (p.1 = q.1 ∧ Text.le p.2 q.2 = true) := by
  rw [HeaderBlock.pairLe]
  split
  · next heq => simp [heq]
  · next hne => simp [hne]

theorem HeaderBlock.linearLe_pairLe : LinearLe HeaderBlock.pairLe where
  total p q := by
    rw [Bool.or_eq_true, pairLe_iff, pairLe_iff]
    by_cases heq : p.1 = q.1
    · rcases Text.linearLe.le_or_le p.2 q.2 with hle | hle
      · exact .inl (.inr ⟨heq, hle⟩)
      · exact .inr (.inr ⟨heq.symm, hle⟩)
    · rcases Text.linearLe.le_or_le p.1 q.1 with hle | hle
      · exact .inl (.inl ⟨heq, hle⟩)
      · exact .inr (.inl ⟨Ne.symm heq, hle⟩)
  trans p q r hpq hqr := by
    rw [pairLe_iff] at hpq hqr ⊢
    rcases hpq with ⟨hne, hpq⟩ | ⟨heq, hpq⟩
    · rcases hqr with ⟨hne', hqr⟩ | ⟨heq', -⟩
      · -- equal outer names would make the name in the middle equal to both
        refine .inl ⟨fun heq => hne ?_, Text.linearLe.trans _ _ _ hpq hqr⟩
        exact Text.linearLe.antisymm _ _ hpq (heq ▸ hqr)
      · exact .inl ⟨heq' ▸ hne, heq' ▸ hpq⟩
    · rcases hqr with ⟨hne', hqr⟩ | ⟨heq', hqr⟩
      · exact .inl ⟨heq ▸ hne', heq ▸ hqr⟩
      · exact .inr ⟨heq.trans heq', Text.linearLe.trans _ _ _ hpq hqr⟩
  antisymm p q hpq hqp := by
    rw [pairLe_iff] at hpq hqp
    rcases hpq with ⟨hne, hpq⟩ | ⟨heq, hpq⟩
    · rcases hqp with ⟨-, hqp⟩ | ⟨heq, -⟩
      · exact absurd (Text.linearLe.antisymm _ _ hpq hqp) hne
      · exact absurd heq.symm hne
    · rcases hqp with ⟨hne, -⟩ | ⟨-, hqp⟩
      · exact absurd heq.symm hne
      · exact Prod.ext heq (Text.linearLe.antisymm _ _ hpq hqp)

/-- What is rendered are the pairs of any list in order that holds the same pairs. -/
theorem HeaderBlock.render_of_perm (sep joint : Text) {pairs sorted : List (Text × Text)}
    (hperm : pairs.Perm sorted) (hsorted : sorted.Pairwise fun p q => pairLe p q = true) :
    render sep joint pairs
      = Text.join joint (sorted.map fun (name, value) => name ++ sep ++ value) := by
  rw [render, linearLe_pairLe.mergeSort_eq_iff.2 hperm, List.mergeSort_of_pairwise hsorted]

/-! ### Lists without repetitions -/

/-- A list without its repetitions holds each member once. -/
theorem nodup_eraseDups {α : Type} [BEq α] [LawfulBEq α] (l : List α) : l.eraseDups.Nodup := by
  -- the recursion goes to a filtered tail, which is shorter but no part of the list
  induction hn : l.length using Nat.strongRecOn generalizing l with
  | ind n ih =>
      cases l with
      | nil => simp
      | cons a l =>
          rw [List.eraseDups_cons, List.nodup_cons]
          constructor
          · simp [List.mem_eraseDups]
          · refine ih _ ?_ _ rfl
            have hle := List.length_filter_le (fun b => !b == a) l
            rw [List.length_cons] at hn
            omega

namespace HeaderBlock

/-! ### The order of pairs -/

/-- By the bytes of the names, and by those of the values where the names are equal. -/
def Precedes (p q : Text × Text) : Prop :=
  Text.utf8 p.1 < Text.utf8 q.1 ∨ p.1 = q.1 ∧ Text.utf8 p.2 ≤ Text.utf8 q.2

theorem pairLe_iff_precedes {p q : Text × Text} : pairLe p q = true ↔ Precedes p q := by
  have hname : p.1 ≠ q.1 ∧ Text.le p.1 q.1 = true ↔ Text.utf8 p.1 < Text.utf8 q.1 := by
    rw [Text.le, Bytes.le_iff, List.le_iff_lt_or_eq]
    constructor
    · rintro ⟨hne, hlt | heq⟩
      · exact hlt
      · exact absurd (Text.utf8_injective heq) hne
    · intro hlt
      refine ⟨fun heq => ?_, .inl hlt⟩
      rw [heq] at hlt
      exact List.lt_irrefl _ hlt
  rw [pairLe_iff, Precedes, hname, Text.le, Bytes.le_iff]

instance : DecidableRel Precedes := fun _ _ => decidable_of_iff _ pairLe_iff_precedes

/-- The members of a list, each as often as it stands there, in ascending order. -/
structure Arranges (arranged pairs : List (Text × Text)) : Prop where
  count_eq : ∀ pair, arranged.count pair = pairs.count pair
  ascending : arranged.Pairwise Precedes

/-- A list has one arrangement, and sorting finds it. -/
theorem arranges_iff {arranged pairs : List (Text × Text)} :
    Arranges arranged pairs ↔ arranged = pairs.mergeSort pairLe := by
  constructor
  · rintro ⟨hcount, hascending⟩
    have hsorted : arranged.mergeSort pairLe = arranged :=
      List.mergeSort_of_pairwise (hascending.imp pairLe_iff_precedes.2)
    rw [← hsorted, linearLe_pairLe.mergeSort_eq_iff]
    exact List.perm_iff_count.2 hcount
  · rintro rfl
    refine ⟨List.perm_iff_count.1 (List.mergeSort_perm pairs pairLe), ?_⟩
    exact (linearLe_pairLe.pairwise_mergeSort pairs).imp pairLe_iff_precedes.1

/-! ### Writing pairs -/

/-- The texts that are pairs with `sep` inside them and `joint` between them. -/
inductive Rendered (sep joint : Text) : List (Text × Text) → Text → Prop
  | nothing : Rendered sep joint [] []
  | first (name value : Text) : Rendered sep joint [(name, value)] (name ++ sep ++ value)
  | next {pairs : List (Text × Text)} {written : Text} (name value : Text) :
      pairs ≠ [] → Rendered sep joint pairs written →
      Rendered sep joint (pairs ++ [(name, value)]) (written ++ joint ++ name ++ sep ++ value)

/-- One more pair after those that are written; the joint comes first, unless there are none. -/
def write (sep joint written : Text) : (Text × Text) × Nat → Text
  | ((name, value), index) =>
    (if index ≠ 0 then written ++ joint else written) ++ name ++ sep ++ value

/-- The pairs written one after the other, each with its index. -/
def writeAll (sep joint : Text) (pairs : List (Text × Text)) : Text :=
  pairs.zipIdx.foldl (write sep joint) []

variable {sep joint written : Text} {pairs : List (Text × Text)}

theorem writeAll_concat (pairs : List (Text × Text)) (pair : Text × Text) :
    writeAll sep joint (pairs ++ [pair])
      = write sep joint (writeAll sep joint pairs) (pair, pairs.length) := by
  rw [writeAll, List.zipIdx_append, List.foldl_append, writeAll]
  simp

/-- There is one rendering: the pairs as lines, joined. -/
theorem Rendered.eq_join (h : Rendered sep joint pairs written) :
    written = Text.join joint (pairs.map fun (name, value) => name ++ sep ++ value) := by
  induction h with
  | nothing => rfl
  | first name value => simp [Text.join]
  | @next pairs written name value hne _ ih =>
      rw [List.map_append, Text.join_append joint (by simpa using hne) (by simp), ← ih]
      simp [Text.join]

/-- One more pair leaves a rendering of one more pair. -/
theorem rendered_write (h : Rendered sep joint pairs written) (pair : Text × Text) :
    Rendered sep joint (pairs ++ [pair]) (write sep joint written (pair, pairs.length)) := by
  obtain ⟨name, value⟩ := pair
  by_cases hnil : pairs = []
  · subst hnil
    obtain rfl : written = [] := h.eq_join
    exact .first name value
  · rw [write, if_pos (by simpa using hnil)]
    exact .next name value hnil h

/-- All pairs leave their rendering. -/
theorem rendered_writeAll (pairs : List (Text × Text)) :
    Rendered sep joint pairs (writeAll sep joint pairs) := by
  induction pairs using List.reverseRecOn with
  | nil => exact .nothing
  | append_singleton pairs pair ih =>
      rw [writeAll_concat]
      exact rendered_write ih pair

theorem rendered_iff {text : Text} :
    Rendered sep joint pairs text ↔ text = writeAll sep joint pairs := by
  constructor
  · intro h
    rw [h.eq_join, (rendered_writeAll pairs).eq_join]
  · rintro rfl
    exact rendered_writeAll pairs

/-- The sorted pairs are written one after the other. -/
theorem render_eq_writeAll (sep joint : Text) (pairs : List (Text × Text)) :
    render sep joint pairs = writeAll sep joint (pairs.mergeSort pairLe) := by
  rw [render, ← (rendered_writeAll _).eq_join]

/-- **The rendering is that of the only arrangement, and every permutation has the same.**  There is
one list that holds the given pairs, each as often as it was given, in the ascending order of the
bytes of names and then of values; the rendering is the text of these pairs with the joint between
them, and no other text is. -/
theorem render_canonical (sep joint : Text) (pairs : List (Text × Text)) :
    (∃! arranged, Arranges arranged pairs)
    ∧ (∀ arranged, Arranges arranged pairs →
      writeAll sep joint arranged = render sep joint pairs
      ∧ ∀ text, Rendered sep joint arranged text ↔ text = render sep joint pairs)
    ∧ ∀ pairs', pairs'.Perm pairs → render sep joint pairs' = render sep joint pairs := by
  refine ⟨⟨pairs.mergeSort pairLe, arranges_iff.2 rfl, fun _ h => arranges_iff.1 h⟩, ?_, ?_⟩
  · intro arranged h
    obtain rfl : arranged = pairs.mergeSort pairLe := arranges_iff.1 h
    have hwritten := render_eq_writeAll sep joint pairs
    refine ⟨hwritten.symm, fun text => ?_⟩
    rw [hwritten, rendered_iff]
  · intro pairs' hperm
    rw [render, render, linearLe_pairLe.mergeSort_eq_iff.2 hperm]

/-- A pair that stands twice, another value of its name, and a name with a greater first byte. -/
def mixedPairs : List (Text × Text) :=
  [("b".toList, "2".toList), ("é".toList, []), ("b".toList, "1".toList), ("b".toList, "2".toList)]

/-- The same pairs in ascending order. -/
def orderedPairs : List (Text × Text) :=
  [("b".toList, "1".toList), ("b".toList, "2".toList), ("b".toList, "2".toList), ("é".toList, [])]

/-- The pairs and their reverse have one rendering. -/
theorem render_canonical_mixedPairs :
    Arranges orderedPairs mixedPairs
      ∧ render [':'] ['\n'] mixedPairs = "b:1\nb:2\nb:2\né:".toList
      ∧ mixedPairs.reverse.Perm mixedPairs
      ∧ render [':'] ['\n'] mixedPairs.reverse = "b:1\nb:2\nb:2\né:".toList := by
  have harranged : Arranges orderedPairs mixedPairs :=
    ⟨List.perm_iff_count.1 (by decide), by decide⟩
  have hperm : mixedPairs.reverse.Perm mixedPairs := List.reverse_perm mixedPairs
  obtain ⟨-, hwritten, hpermuted⟩ := render_canonical [':'] ['\n'] mixedPairs
  have htext : render [':'] ['\n'] mixedPairs = "b:1\nb:2\nb:2\né:".toList :=
    (hwritten _ harranged).1.symm
  exact ⟨harranged, htext, hperm, (hpermuted _ hperm).trans htext⟩

end HeaderBlock

end SharedKey
