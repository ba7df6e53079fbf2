/-
**How the text of a request target is made up.**

A text that is read as a target is made up of the parts of the target, with the marks between them
and a fragment that is left out.  `Target.Spells` says so for each of the four forms.  Nothing of a
path or a query is changed by reading it, so the literal path of a target stands in its text; a url
without a path has a request path of its own, and there the text of the url has to be asked.  The
question that `Resource.hasEmptyPath` puts to it, which looks for the first mark of a scheme and for
the authority after it, is answered here for every text that is read.

Main definitions:

* `Target.IsFragment`, `Target.SpellsPathQuery`, `Target.Spells` — the texts of a fragment, of a
  path with a query, and of a target;
* `Target.IsBareUrl` — a url whose authority is followed by nothing, or by a fragment.

Main results:

* `Target.spells_of_parse` — **a text that is read is made up of the parts of its target**;
* `Target.isBareUrl_iff` — the urls whose request path is not in their text;
* `Resource.ofUrl_eq_build` — **the resource of a url is built from its literal path**.
-/

import SharedKey.Proofs.Text
import SharedKey.Signature

set_option relaxedAutoImplicit false
set_option autoImplicit false

namespace SharedKey

namespace Text

/-! ### Cutting and searching -/

theorem not_of_dropWhile_eq_cons {p : Char → Bool} {t rest : Text} {c : Char}
    (h : t.dropWhile p = c :: rest) : p c = false := by
  have hhead := List.head?_dropWhile_not p t
  simpa [h] using hhead

theorem of_mem_takeWhile {p : Char → Bool} {t : Text} {c : Char} (h : c ∈ t.takeWhile p) :
    p c = true :=
  List.all_eq_true.1 List.all_takeWhile c h

/-- A cut text is its two parts, with the separator between them where there is a second one. -/
theorem eq_append_of_cut {sep : Char} {t before : Text} {after : Option Text}
    (h : cut sep t = (before, after)) :
    t = before ++ (match after with | some rest => sep :: rest | none => []) := by
  have hsplit : t.takeWhile (· != sep) ++ t.dropWhile (· != sep) = t :=
    List.takeWhile_append_dropWhile
  rw [cut, Prod.mk.injEq] at h
  obtain ⟨rfl, hafter⟩ := h
  cases hdrop : t.dropWhile (· != sep) with
  | nil =>
      rw [hdrop] at hafter
      subst hafter
      rw [hdrop] at hsplit
      exact hsplit.symm
  | cons c rest =>
      obtain rfl : c = sep := by simpa using not_of_dropWhile_eq_cons hdrop
      rw [hdrop] at hafter
      subst hafter
      rw [hdrop] at hsplit
      exact hsplit.symm

/-- A mark is not found where one of its characters is missing. -/
theorem after?_eq_none {mark t : Text} {c : Char} (hmark : c ∈ mark) (ht : c ∉ t) :
    after? mark t = none := by
  induction t with
  | nil =>
      cases mark with
      | nil => cases hmark
      | cons m mark => rfl
  | cons d t ih =>
      have hstarts : mark.isPrefixOf (d :: t) = false := by
        rw [← Bool.not_eq_true, List.isPrefixOf_iff_prefix]
        intro hstart
        exact ht (hstart.subset hmark)
      rw [after?, hstarts]
      exact ih fun hmem => ht (List.mem_cons_of_mem d hmem)

/-- A mark that begins with a character which has not come before is found where it stands. -/
theorem after?_append {mark before rest : Text} {c : Char} (h : c ∉ before) :
    after? (c :: mark) (before ++ (c :: mark ++ rest)) = some rest := by
  induction before with
  | nil =>
      have hstarts : (c :: mark).isPrefixOf (c :: mark ++ rest) = true := by
        rw [List.isPrefixOf_iff_prefix]
        exact List.prefix_append _ _
      rw [List.nil_append, List.cons_append, after?, ← List.cons_append, hstarts]
      simp
  | cons d before ih =>
      have hstarts : (c :: mark).isPrefixOf (d :: (before ++ (c :: mark ++ rest))) = false := by
        rw [← Bool.not_eq_true, List.isPrefixOf_iff_prefix]
        intro hstart
        obtain ⟨tail, htail⟩ := hstart
        obtain ⟨rfl, -⟩ := List.cons.inj htail
        exact h List.mem_cons_self
      rw [List.cons_append, after?, hstarts]
      exact ih fun hmem => h (List.mem_cons_of_mem d hmem)

/-! ### Texts with a character that stops -/

theorem takeWhile_append_stop {p : Char → Bool} {c : Char} (hc : p c = false) (t rest : Text) :
    (t ++ c :: rest).takeWhile p = t.takeWhile p := by
  induction t with
  | nil => simp [hc]
  | cons d t ih =>
      rw [List.cons_append, List.takeWhile_cons, List.takeWhile_cons, ih]

theorem dropWhile_append_stop {p : Char → Bool} {c : Char} (hc : p c = false) (t rest : Text) :
    (t ++ c :: rest).dropWhile p = t.dropWhile p ++ c :: rest := by
  induction t with
  | nil => simp [hc]
  | cons d t ih =>
      rw [List.cons_append, List.dropWhile_cons, List.dropWhile_cons, ih]
      split
      · rfl
      · rfl

/-- A mark without the character ends before it. -/
theorem isPrefixOf_append_stop {mark : Text} {c : Char} (hc : c ∉ mark) (t rest : Text) :
    mark.isPrefixOf (t ++ c :: rest) = mark.isPrefixOf t := by
  induction mark generalizing t with
  | nil => rfl
  | cons m mark ih =>
      rw [List.mem_cons, not_or] at hc
      cases t with
      | nil =>
          have hne : (m == c) = false := beq_false_of_ne (Ne.symm hc.1)
          rw [List.nil_append, List.isPrefixOf_cons_cons, hne]
          rfl
      | cons d t =>
          rw [List.cons_append, List.isPrefixOf_cons_cons, List.isPrefixOf_cons_cons, ih hc.2]

end Text

namespace Target

/-! ### The parts of a target in its text -/

/-- A fragment is nothing, or a text that begins with a number sign. -/
def IsFragment (t : Text) : Prop := t = [] ∨ ∃ rest, t = '#' :: rest

/-- The text of a path with a query, and with a fragment that belongs to neither. -/
def SpellsPathQuery (t path : Text) (query : Option Text) : Prop :=
  ∃ fragment, t = path ++ displayQuery query ++ fragment ∧ IsFragment fragment
    ∧ (∀ c ∈ path, isPathChar c = true) ∧ ∀ c ∈ query.getD [], isQueryChar c = true

/-- An authority that ends where the text says so. -/
def IsAuthority (t : Text) : Prop := t ≠ [] ∧ ∀ c ∈ t, endsAuthority c = false

/-- The texts of a target. -/
inductive Spells : Text → Target → Prop
  | originForm {t path : Text} {query : Option Text} :
      path.head? = some '/' → SpellsPathQuery t path query → Spells t (.originForm path query)
  | absoluteForm {scheme authority rest path : Text} {query : Option Text} :
      (∀ c ∈ scheme, isSchemeChar c = true) → IsAuthority authority →
      (path = [] ∨ path.head? = some '/') → SpellsPathQuery rest path query →
      Spells (scheme ++ (schemeMark ++ (authority ++ rest)))
        (.absoluteForm (keptScheme scheme) authority path query)
  | authorityForm {authority : Text} :
      IsAuthority authority → Spells authority (.authorityForm authority)
  | asteriskForm : Spells ['*'] .asteriskForm

/-- A path with a query is made up of both and of a fragment. -/
theorem spellsPathQuery_of_parse {t path : Text} {query : Option Text}
    (h : parsePathQuery t = .ok (path, query)) : SpellsPathQuery t path query := by
  rw [parsePathQuery] at h
  split at h
  next hcut =>
    rename_i before after
    split at h
    next hchars =>
      obtain ⟨rfl, rfl⟩ := Prod.mk.inj (Except.ok.inj h)
      simp only [Bool.and_eq_true, List.all_eq_true] at hchars
      have hfragment : dropFragment t ++ t.dropWhile (· ≠ '#') = t :=
        List.takeWhile_append_dropWhile
      refine ⟨t.dropWhile (· ≠ '#'), ?_, ?_, hchars⟩
      · have hshown : dropFragment t = before ++ displayQuery after := by
          rw [Text.eq_append_of_cut hcut]
          cases after <;> rfl
        rw [← hshown, hfragment]
      · cases hdrop : t.dropWhile (· ≠ '#') with
        | nil => exact .inl rfl
        | cons c rest =>
            obtain rfl : c = '#' := by simpa using Text.not_of_dropWhile_eq_cons hdrop
            exact .inr ⟨rest, rfl⟩
    next => cases h

theorem SpellsPathQuery.head?_eq_slash_iff {t path : Text} {query : Option Text}
    (h : SpellsPathQuery t path query) : path.head? = some '/' ↔ t.head? = some '/' := by
  obtain ⟨fragment, rfl, hfragment, -⟩ := h
  cases path with
  | cons c path => exact Iff.rfl
  | nil =>
      cases query with
      | some query => simp [displayQuery]
      | none =>
          rcases hfragment with rfl | ⟨rest, rfl⟩
          · exact Iff.rfl
          · simp [displayQuery]

/-- After an authority a path begins with a slash, unless it is empty. -/
theorem SpellsPathQuery.path_eq_nil_or {t path : Text} {query : Option Text}
    (h : SpellsPathQuery t path query) (hstart : ∀ c, t.head? = some c → endsAuthority c = true) :
    path = [] ∨ path.head? = some '/' := by
  obtain ⟨fragment, rfl, -, hpath, -⟩ := h
  cases path with
  | nil => exact .inl rfl
  | cons c path =>
      have hchar := hpath c List.mem_cons_self
      have hends := hstart c rfl
      simp only [endsAuthority, Bool.or_eq_true, decide_eq_true_eq] at hends
      -- the two other characters that end an authority stand in no path
      rcases hends with (rfl | rfl) | rfl
      · exact .inr rfl
      · exact absurd hchar (by decide)
      · exact absurd hchar (by decide)

/-- A text with a scheme is the scheme, the mark and the rest; otherwise nothing is taken away. -/
theorem eq_append_of_splitScheme {t rest : Text} {scheme : Option Text}
    (h : splitScheme t = .ok (scheme, rest)) :
    (scheme = none ∧ rest = t) ∨ ∃ written, (∀ c ∈ written, isSchemeChar c = true)
      ∧ scheme = some (keptScheme written) ∧ t = written ++ (schemeMark ++ rest) := by
  rw [splitScheme] at h
  split at h
  · next hmark =>
      split at h
      · cases h
      · obtain ⟨rfl, rfl⟩ := Prod.mk.inj (Except.ok.inj h)
        refine .inr ⟨t.takeWhile isSchemeChar, ?_, rfl, ?_⟩
        · intro c hc
          exact Text.of_mem_takeWhile hc
        · obtain ⟨tail, htail⟩ := List.isPrefixOf_iff_prefix.1 hmark.1
          rw [← htail, List.drop_left, htail]
          exact List.takeWhile_append_dropWhile.symm
  · obtain ⟨rfl, rfl⟩ := Prod.mk.inj (Except.ok.inj h)
    exact .inl ⟨rfl, rfl⟩

/-- A text with an authority is made up of the parts of its target. -/
theorem spells_of_parseWithAuthority {t : Text} {target : Target}
    (h : parseWithAuthority t = .ok target) : Spells t target := by
  unfold parseWithAuthority at h
  split at h
  · cases h
  · next scheme afterScheme hscheme =>
      have hsplit : afterScheme.takeWhile (!endsAuthority ·)
          ++ afterScheme.dropWhile (!endsAuthority ·) = afterScheme :=
        List.takeWhile_append_dropWhile
      have hchars : ∀ c ∈ afterScheme.takeWhile (!endsAuthority ·), endsAuthority c = false := by
        intro c hc
        simpa using Text.of_mem_takeWhile hc
      have hstart : ∀ c, (afterScheme.dropWhile (!endsAuthority ·)).head? = some c →
          endsAuthority c = true := by
        intro c hc
        obtain ⟨rest, hrest⟩ := List.head?_eq_some_iff.1 hc
        simpa using Text.not_of_dropWhile_eq_cons hrest
      have hwritten := eq_append_of_splitScheme hscheme
      simp only [List.isEmpty_iff] at h
      split at h
      · cases h
      · next hne =>
          split at h
          · cases h
          · split at h
            · next hrest =>
                -- no scheme and nothing after the authority, which is then the whole text
                obtain rfl := Except.ok.inj h
                obtain ⟨-, rfl⟩ | ⟨_, _, hsome, _⟩ := hwritten
                · rw [hrest, List.append_nil] at hsplit
                  rw [hsplit] at hchars ⊢
                  exact .authorityForm ⟨hne, hchars⟩
                · cases hsome
            · cases h
          · split at h
            · cases h
            · next hauthority =>
                obtain ⟨⟨path, query⟩, hpath, rfl⟩ := Fallible.map_eq_ok_iff.1 h
                obtain ⟨hnone, -⟩ | ⟨written, hwrittenChars, hkept, ht⟩ := hwritten
                · cases hnone
                · obtain rfl := Option.some.inj hkept
                  have hspells := spellsPathQuery_of_parse hpath
                  have habsolute := Spells.absoluteForm hwrittenChars ⟨hauthority, hchars⟩
                    (hspells.path_eq_nil_or hstart) hspells
                  rwa [hsplit, ← ht] at habsolute

/-- **A text that is read is made up of the parts of its target.** -/
theorem spells_of_parse {t : Text} {target : Target} (h : parse t = .ok target) :
    Spells t target := by
  unfold parse at h
  split at h
  · cases h
  · split at h
    · cases h
    · obtain rfl := Except.ok.inj h
      exact .asteriskForm
    · cases h
    · cases h
    · obtain ⟨⟨path, query⟩, hpath, rfl⟩ := Fallible.map_eq_ok_iff.1 h
      have hspells := spellsPathQuery_of_parse hpath
      exact .originForm (hspells.head?_eq_slash_iff.2 rfl) hspells
    · exact spells_of_parseWithAuthority h

/-! ### Reading by the first character -/

theorem parse_of_tooLong {t : Text} (h : maxBytes < Text.byteLength t) :
    parse t = .error .tooLong := by
  unfold parse
  rw [if_pos h]

/-- A slash begins a path. -/
theorem parse_slash {t : Text} (h : ¬ maxBytes < Text.byteLength ('/' :: t)) :
    parse ('/' :: t)
      = (parsePathQuery ('/' :: t)).map fun (path, query) => .originForm path query := by
  unfold parse
  rw [if_neg h]
  rfl

/-- Of more than one character any other text is read up to its authority first. -/
theorem parse_cons_of_ne_slash {c : Char} {t : Text} (hc : c ≠ '/') (ht : t ≠ [])
    (h : ¬ maxBytes < Text.byteLength (c :: t)) : parse (c :: t) = parseWithAuthority (c :: t) := by
  unfold parse
  rw [if_neg h]
  split
  · next heq => cases heq
  · next heq => exact absurd (List.cons.inj heq).2 ht
  · next heq => exact absurd (List.cons.inj heq).2 ht
  · next heq => exact absurd (List.cons.inj heq).2 ht
  · next heq => exact absurd (List.cons.inj heq).1 hc
  · rfl

/-! ### Urls without a path -/

/-- A url whose authority is followed by nothing, or by a fragment. -/
def IsBareUrl (t : Text) : Prop :=
  ∃ scheme authority fragment, t = scheme ++ (schemeMark ++ (authority ++ fragment))
    ∧ (∀ c ∈ scheme, isSchemeChar c = true) ∧ IsAuthority authority ∧ IsFragment fragment

theorem notMem_scheme {scheme : Text} (h : ∀ c ∈ scheme, isSchemeChar c = true) {c : Char}
    (hc : isSchemeChar c = false) : c ∉ scheme := by
  intro hmem
  rw [h c hmem] at hc
  cases hc

/-- An authority is taken from a text that begins with it. -/
theorem takeWhile_authority {authority rest : Text}
    (hauthority : ∀ c ∈ authority, endsAuthority c = false)
    (hrest : ∀ c, rest.head? = some c → endsAuthority c = true) :
    (authority ++ rest).takeWhile (!endsAuthority ·) = authority := by
  rw [List.takeWhile_append_of_pos (by simpa using hauthority)]
  cases rest with
  | nil => exact List.append_nil authority
  | cons c rest => simp [hrest c rfl]

theorem dropWhile_authority {authority rest : Text}
    (hauthority : ∀ c ∈ authority, endsAuthority c = false)
    (hrest : ∀ c, rest.head? = some c → endsAuthority c = true) :
    (authority ++ rest).dropWhile (!endsAuthority ·) = rest := by
  rw [List.dropWhile_append_of_pos (by simpa using hauthority)]
  cases rest with
  | nil => rfl
  | cons c rest => simp [hrest c rfl]

/-- Where an authority ends is told from the text. -/
theorem authority_append_inj {authority authority' rest rest' : Text}
    (hauthority : ∀ c ∈ authority, endsAuthority c = false)
    (hauthority' : ∀ c ∈ authority', endsAuthority c = false)
    (hrest : ∀ c, rest.head? = some c → endsAuthority c = true)
    (hrest' : ∀ c, rest'.head? = some c → endsAuthority c = true)
    (h : authority ++ rest = authority' ++ rest') : authority = authority' ∧ rest = rest' := by
  have htake := congrArg (List.takeWhile (!endsAuthority ·)) h
  rw [takeWhile_authority hauthority hrest, takeWhile_authority hauthority' hrest'] at htake
  subst htake
  exact ⟨rfl, List.append_cancel_left h⟩

theorem IsFragment.head?_ends {t : Text} (h : IsFragment t) {c : Char} (hc : t.head? = some c) :
    endsAuthority c = true := by
  rcases h with rfl | ⟨rest, rfl⟩
  · cases hc
  · obtain rfl := Option.some.inj hc
    rfl

theorem SpellsPathQuery.head?_ends {t path : Text} {query : Option Text}
    (h : SpellsPathQuery t path query) (hpath : path = [] ∨ path.head? = some '/') {c : Char}
    (hc : t.head? = some c) : endsAuthority c = true := by
  obtain ⟨fragment, rfl, hfragment, -⟩ := h
  cases path with
  | cons d path =>
      rcases hpath with hnil | hslash
      · cases hnil
      · obtain rfl := Option.some.inj hslash
        obtain rfl := Option.some.inj hc
        rfl
  | nil =>
      cases query with
      | none => exact hfragment.head?_ends hc
      | some query =>
          obtain rfl := Option.some.inj hc
          rfl

theorem SpellsPathQuery.isFragment {t : Text} (h : SpellsPathQuery t [] none) : IsFragment t := by
  obtain ⟨fragment, rfl, hfragment, -⟩ := h
  exact hfragment

/-- A fragment is the text of no path and no query. -/
theorem SpellsPathQuery.eq_nil_of_isFragment {t path : Text} {query : Option Text}
    (h : SpellsPathQuery t path query) (ht : IsFragment t) : path = [] ∧ query = none := by
  obtain ⟨fragment, rfl, -, hpath, -⟩ := h
  have hhash : isPathChar '#' = false := by decide
  cases path with
  | cons c path =>
      rcases ht with hnil | ⟨rest, hrest⟩
      · cases hnil
      · obtain ⟨rfl, -⟩ := List.cons.inj hrest
        rw [hpath '#' List.mem_cons_self] at hhash
        cases hhash
  | nil =>
      cases query with
      | none => exact ⟨rfl, rfl⟩
      | some query =>
          rcases ht with hnil | ⟨rest, hrest⟩
          · cases hnil
          · simp [displayQuery] at hrest

/-- The urls whose request path is not in their text are those without path and query. -/
theorem isBareUrl_iff {t : Text} {target : Target} (h : parse t = .ok target) :
    IsBareUrl t ↔ ∃ scheme authority, target = .absoluteForm scheme authority [] none := by
  have hspells := spells_of_parse h
  constructor
  · rintro ⟨scheme, authority, fragment, ht, hscheme, ⟨-, hauthority⟩, hfragment⟩
    cases hspells with
    | originForm hslash hpath =>
        rw [hpath.head?_eq_slash_iff, ht] at hslash
        cases scheme with
        | nil => simp [schemeMark] at hslash
        | cons c scheme =>
            obtain rfl := Option.some.inj hslash
            exact absurd (hscheme '/' List.mem_cons_self) (by decide)
    | @absoluteForm scheme' authority' rest path query hscheme' hauthority' hslash hpath =>
        -- no scheme holds the colon of the mark, so both texts have it at the same place
        obtain ⟨-, hmark⟩ := Text.append_sep_inj (notMem_scheme hscheme' (by decide))
          (notMem_scheme hscheme (by decide)) ht
        have hafter : authority' ++ rest = authority ++ fragment := by simpa using hmark
        obtain ⟨-, rfl⟩ := authority_append_inj hauthority'.2 hauthority
          (fun c hc => hpath.head?_ends hslash hc) (fun c hc => hfragment.head?_ends hc) hafter
        obtain ⟨rfl, rfl⟩ := hpath.eq_nil_of_isFragment hfragment
        exact ⟨_, _, rfl⟩
    | authorityForm hauthority' =>
        have hslash : endsAuthority '/' = false := by
          refine hauthority'.2 '/' ?_
          rw [ht]
          simp [schemeMark]
        exact absurd hslash (by decide)
    | asteriskForm =>
        have hlength := congrArg List.length ht
        simp [schemeMark] at hlength
        omega
  · rintro ⟨scheme, authority, rfl⟩
    cases hspells with
    | absoluteForm hscheme hauthority _ hpath =>
        exact ⟨_, _, _, rfl, hscheme, hauthority, hpath.isFragment⟩

end Target

namespace Resource

open Target

/-- A url with a scheme and an authority has an empty path exactly when its literal path is. -/
theorem hasEmptyPath_absoluteForm {scheme authority rest path kept : Text} {query : Option Text}
    (hscheme : ∀ c ∈ scheme, isSchemeChar c = true) (hslash : path = [] ∨ path.head? = some '/')
    (hpath : SpellsPathQuery rest path query) :
    hasEmptyPath (scheme ++ (schemeMark ++ (authority ++ rest)))
        (.absoluteForm kept authority path query) = decide (path = []) := by
  have hafter : Text.after? schemeMark (scheme ++ (schemeMark ++ (authority ++ rest)))
      = some (authority ++ rest) :=
    Text.after?_append (notMem_scheme hscheme (by decide))
  have hstarts : authority.isPrefixOf (authority ++ rest) = true := by
    rw [List.isPrefixOf_iff_prefix]
    exact List.prefix_append _ _
  rw [hasEmptyPath, authority?, hafter]
  simp only [hstarts, Bool.true_and, List.drop_left]
  rcases hslash with rfl | hslash
  · have hhead : rest.head? ≠ some '/' := fun hrest => by
      have hnil := hpath.head?_eq_slash_iff.2 hrest
      cases hnil
    cases rest with
    | nil => rfl
    | cons c rest =>
        have hc : ('/' == c) = false := by
          rw [beq_eq_false_iff_ne]
          rintro rfl
          exact hhead rfl
        simp [List.isPrefixOf, hc]
  · obtain ⟨after, rfl⟩ := List.head?_eq_some_iff.1 (hpath.head?_eq_slash_iff.1 hslash)
    obtain ⟨after', rfl⟩ := List.head?_eq_some_iff.1 hslash
    rfl

/-- **The resource of a url is built from its literal path.** -/
theorem ofUrl_eq_build {url : Text} {target : Target} (h : Target.parse url = .ok target)
    (account : Text) (variant : Variant) :
    ofUrl url account variant = build target.literalPath target.queryText account variant := by
  have hpath : (if hasEmptyPath url target then [] else target.requestPath)
      = target.literalPath := by
    cases spells_of_parse h with
    | originForm => rfl
    | @absoluteForm scheme authority rest path query hscheme _ hslash hpath =>
        rw [hasEmptyPath_absoluteForm hscheme hslash hpath]
        rcases hslash with rfl | hslash
        · rfl
        · cases path with
          | nil => cases hslash
          | cons c path => rfl
    | authorityForm hauthority =>
        have hnone : Text.after? schemeMark url = none := by
          refine Text.after?_eq_none (c := '/') ?_ fun hmem => ?_
          · decide
          · exact absurd (hauthority.2 '/' hmem) (by decide)
        rw [hasEmptyPath, hnone]
        rfl
    | asteriskForm => rfl
  rw [ofUrl, h]
  exact congrArg (build · target.queryText account variant) hpath

end Resource

end SharedKey
