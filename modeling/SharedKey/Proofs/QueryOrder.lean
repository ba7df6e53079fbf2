/-
**The order of the segments of a query.**

Shared Key sorts the names of a query and the values of every name, so the order in which a query
gives them is lost.  The other variants take the first value of one name, and there the segments of
that name have to stay in their order.  Whether a query can be read at all is told from its single
segments: a semicolon and a broken escape lie within one of them, since an ampersand is no digit of
an escape, and the names and values are theirs.

A target is read up to its first question mark without a look at what follows, and of the query only
the characters and the length are looked at.  A url whose query is reordered is therefore read as
the same target with the other query, or fails to be read for the same reason, and both urls get the
same authorization.

Main definitions:

* `Query.Reordered` — two queries of the same segments;
* `Query.segmentsOf` — the segments that give a name, as they are written;
* `Resource.KeepsOrder` — the order that a variant asks for;
* `Target.AlikeButQuery` — what comes of reading two urls that differ in their queries;
* `Authorization.Alike` — what comes of signing them.

Main results:

* `Text.brokenEscape?_join_eq_none_iff` — escapes break within lines;
* `Query.Reordered.exists_parse_eq_ok` — a reordered query has reordered parameters;
* `Resource.tail_of_perm`, `Resource.tail_of_valuesOf` — what a variant takes over of parameters
  tells little of their order;
* `Resource.build_of_reordered` — **the resource of a query does not tell the order of its
  segments, nor does its failure**;
* `Target.exists_splitScheme_eq` — the scheme is told from what stands before the question mark;
* `Target.alikeButQuery_parse` — **a url is read alike whatever the order of its query**;
* `Query.Reordered.signed_alike` — **reordered queries have the same resource, and urls with them
  the same authorization**.
-/

import SharedKey.Proofs.QueryGrammar
import SharedKey.Proofs.Sorting
import SharedKey.Proofs.WrittenPath

set_option relaxedAutoImplicit false
set_option autoImplicit false

namespace SharedKey

namespace Text

/-! ### Joined lines -/

/-- With a separator at the end too, joining puts one after every line. -/
theorem join_append_sep (sep : Text) {parts : List Text} (h : parts ≠ []) :
    join sep parts ++ sep = parts.flatMap (· ++ sep) := by
  induction parts with
  | nil => exact absurd rfl h
  | cons line parts ih =>
      by_cases hparts : parts = []
      · subst hparts
        simp [join]
      · rw [join_cons_of_ne_nil _ _ hparts, List.append_assoc, ih hparts, List.flatMap_cons]

/-- Lines in another order are joined to the same characters in another order. -/
theorem join_perm (sep : Text) {parts parts' : List Text} (h : parts.Perm parts') :
    (join sep parts).Perm (join sep parts') := by
  by_cases hnil : parts = []
  · subst hnil
    rw [h.nil_eq]
  · have hnil' : parts' ≠ [] := by
      rintro rfl
      exact hnil h.eq_nil
    refine (List.perm_append_right_iff sep).1 ?_
    rw [join_append_sep sep hnil, join_append_sep sep hnil']
    exact h.flatMap_right _

/-! ### Escapes in joined lines -/

variable {sep : Char}

theorem startsEscape_cons_cons {high low : Char} {t : Text} :
    StartsEscape (high :: low :: t) ↔ IsHexDigit high ∧ IsHexDigit low := by
  constructor
  · rintro ⟨_, _, after, heq, hhigh, hlow⟩
    obtain ⟨rfl, htail⟩ := List.cons.inj heq
    obtain ⟨rfl, -⟩ := List.cons.inj htail
    exact ⟨hhigh, hlow⟩
  · rintro ⟨hhigh, hlow⟩
    exact ⟨high, low, t, rfl, hhigh, hlow⟩

theorem StartsEscape.two_le_length {t : Text} (h : StartsEscape t) : 2 ≤ t.length := by
  obtain ⟨high, low, rest, rfl, -⟩ := h
  simp

/-- An escape does not reach over a separator that is no digit. -/
theorem startsEscape_append_sep (hsep : ¬ IsHexDigit sep) {t rest : Text} :
    StartsEscape (t ++ sep :: rest) ↔ StartsEscape t := by
  match t with
  | [] =>
      refine ⟨?_, fun h => absurd h.two_le_length (by decide)⟩
      rintro ⟨high, low, after, heq, hhigh, -⟩
      obtain ⟨rfl, -⟩ := List.cons.inj heq
      exact absurd hhigh hsep
  | [c] =>
      refine ⟨?_, fun h => absurd h.two_le_length (by simp)⟩
      rw [List.singleton_append, startsEscape_cons_cons]
      exact fun h => absurd h.2 hsep
  | high :: low :: t =>
      rw [List.cons_append, List.cons_append, startsEscape_cons_cons, startsEscape_cons_cons]

/-- An escape is broken before a separator or after it. -/
theorem brokenEscape?_append_sep (hsep : ¬ IsHexDigit sep) (hpercent : sep ≠ '%') {t rest : Text} :
    brokenEscape? (t ++ sep :: rest) = none
      ↔ brokenEscape? t = none ∧ brokenEscape? rest = none := by
  induction t with
  | nil => simp [brokenEscape?, hpercent]
  | cons c t ih =>
      have hstarts : escapedByte? (t ++ sep :: rest) = none ↔ escapedByte? t = none := by
        rw [← not_iff_not]
        exact escapedByte?_ne_none_iff.trans
          ((startsEscape_append_sep hsep).trans escapedByte?_ne_none_iff.symm)
      rw [List.cons_append, brokenEscape?, brokenEscape?]
      by_cases hbroken : c = '%' ∧ escapedByte? t = none
      · rw [if_pos hbroken, if_pos ⟨hbroken.1, hstarts.2 hbroken.2⟩]
        simp
      · rw [if_neg hbroken, if_neg fun h => hbroken ⟨h.1, hstarts.1 h.2⟩]
        exact ih

/-- Escapes break within lines. -/
theorem brokenEscape?_join_eq_none_iff (hsep : ¬ IsHexDigit sep) (hpercent : sep ≠ '%')
    {parts : List Text} :
    brokenEscape? (join [sep] parts) = none ↔ ∀ part ∈ parts, brokenEscape? part = none := by
  induction parts with
  | nil => simp [join, brokenEscape?]
  | cons line parts ih =>
      by_cases hparts : parts = []
      · subst hparts
        simp [join]
      · rw [join_cons_of_ne_nil _ _ hparts, List.append_assoc, List.singleton_append,
          brokenEscape?_append_sep hsep hpercent, ih, List.forall_mem_cons]

end Text

/-! ### Reordered queries -/

namespace Query

/-- Two queries of the same segments, in whatever order. -/
def Reordered (query query' : Text) : Prop := (query.splitOn '&').Perm (query'.splitOn '&')

/-- Whether a segment gives a parameter of this name, however it is written. -/
def gives (name segment : Text) : Bool :=
  match decodeComponent (nameAndValue segment).1 with
  | .ok n => n = name
  | .error _ => false

/-- The segments that give a name, in their order. -/
def segmentsOf (query name : Text) : List Text := (segments query).filter (gives name)

variable {query query' : Text} {parameters parameters' : Parameters}

theorem join_splitOn (query : Text) : Text.join ['&'] (query.splitOn '&') = query :=
  List.intercalate_splitOn '&'

/-- A query is read segment by segment, where no semicolon and no broken escape keeps it from being
read. -/
theorem parse_eq_ok_iff :
    parse query = .ok parameters ↔ ';' ∉ query ∧ Text.brokenEscape? query = none
      ∧ (segments query).mapM decodeSegment = .ok parameters := by
  rw [parse]
  by_cases hsemicolon : ';' ∈ query
  · rw [if_pos (List.contains_iff_mem.2 hsemicolon)]
    simp [hsemicolon]
  · rw [if_neg (fun h => hsemicolon (List.contains_iff_mem.1 h))]
    cases Text.brokenEscape? query with
    | some rest => simp
    | none => simp [hsemicolon]

/-- The segment of a parameter gives its name. -/
theorem gives_of_decodeSegment {segment : Text} {parameter : Text × Text} (name : Text)
    (h : decodeSegment segment = .ok parameter) :
    gives name segment = decide (parameter.1 = name) := by
  simp only [decodeSegment] at h
  split at h
  · cases h
  · next n hn =>
      split at h
      · cases h
      · obtain rfl := Except.ok.inj h
        rw [gives, hn]

/-- The values of a name are those of the segments that give it. -/
theorem valuesOf_congr {name : Text} (h : parse query = .ok parameters)
    (h' : parse query' = .ok parameters')
    (hsegments : segmentsOf query name = segmentsOf query' name) :
    valuesOf parameters name = valuesOf parameters' name := by
  have hfilter := Fallible.mapM_filter (fun _ _ => gives_of_decodeSegment name)
    (parse_eq_ok_iff.1 h).2.2
  have hfilter' := Fallible.mapM_filter (fun _ _ => gives_of_decodeSegment name)
    (parse_eq_ok_iff.1 h').2.2
  rw [segmentsOf, segmentsOf] at hsegments
  rw [hsegments, hfilter'] at hfilter
  rw [valuesOf, valuesOf, Except.ok.inj hfilter]

namespace Reordered

theorem symm (h : Reordered query query') : Reordered query' query := List.Perm.symm h

/-- Reordered queries have the same characters. -/
theorem perm (h : Reordered query query') : query.Perm query' := by
  have hjoin := Text.join_perm ['&'] h
  rwa [join_splitOn, join_splitOn] at hjoin

theorem brokenEscape?_eq_none (h : Reordered query query')
    (hnone : Text.brokenEscape? query = none) : Text.brokenEscape? query' = none := by
  have hdigit : ¬ Text.IsHexDigit '&' := by decide
  rw [← join_splitOn query, Text.brokenEscape?_join_eq_none_iff hdigit (by decide)] at hnone
  rw [← join_splitOn query', Text.brokenEscape?_join_eq_none_iff hdigit (by decide)]
  intro segment hsegment
  exact hnone segment ((List.Perm.mem_iff h).2 hsegment)

/-- A reordered query has reordered parameters. -/
theorem exists_parse_eq_ok (h : Reordered query query') (hparse : parse query = .ok parameters) :
    ∃ parameters', parse query' = .ok parameters' ∧ parameters.Perm parameters' := by
  obtain ⟨hsemicolon, hbroken, hsegments⟩ := parse_eq_ok_iff.1 hparse
  have hsegmentsPerm : (segments query).Perm (segments query') := List.Perm.filter _ h
  obtain ⟨parameters', hsegments', hperm⟩ := Fallible.exists_mapM_of_perm hsegmentsPerm hsegments
  refine ⟨parameters', parse_eq_ok_iff.2 ⟨?_, h.brokenEscape?_eq_none hbroken, hsegments'⟩, hperm⟩
  exact fun hmem => hsemicolon (h.perm.mem_iff.2 hmem)

end Reordered

/-! ### Reordered parameters -/

theorem names_perm (h : parameters.Perm parameters') :
    (names parameters).Perm (names parameters') := by
  rw [names, names, List.perm_ext_iff_of_nodup (nodup_eraseDups _) (nodup_eraseDups _)]
  intro name
  rw [List.mem_eraseDups, List.mem_eraseDups]
  exact (h.map Prod.fst).mem_iff

theorem valuesOf_perm (h : parameters.Perm parameters') (name : Text) :
    (valuesOf parameters name).Perm (valuesOf parameters' name) :=
  (h.filter _).map Prod.snd

end Query

namespace Resource

variable {query query' : Text} {parameters parameters' : Query.Parameters} {variant : Variant}

theorem parameterLine_of_perm (h : parameters.Perm parameters') :
    parameterLine parameters = parameterLine parameters' := by
  funext name
  rw [parameterLine, parameterLine,
    Text.linearLe.mergeSort_eq_iff.2 (Query.valuesOf_perm h name)]

/-- Shared Key takes over the same of parameters in another order. -/
theorem tail_of_perm (h : parameters.Perm parameters') :
    tail parameters .sharedKey = tail parameters' .sharedKey := by
  rw [tail, tail, h.isEmpty_eq, parameterLines, parameterLines, parameterLine_of_perm h,
    Text.linearLe.mergeSort_eq_iff.2 (Query.names_perm h)]

/-- The other variants take over the same where the values of one name are the same. -/
theorem tail_of_valuesOf (hvariant : variant ≠ .sharedKey)
    (h : Query.valuesOf parameters compName = Query.valuesOf parameters' compName) :
    tail parameters variant = tail parameters' variant := by
  cases variant with
  | sharedKey => exact absurd rfl hvariant
  | sharedKeyForTable => simp only [tail, h]
  | sharedKeyLite => simp only [tail, h]
  | sharedKeyLiteForTable => simp only [tail, h]

/-! ### The resource of a reordered query -/

/-- The order that a variant asks for: none for Shared Key, and that of the segments of `comp` for
the others. -/
def KeepsOrder (variant : Variant) (query query' : Text) : Prop :=
  variant ≠ .sharedKey → Query.segmentsOf query compName = Query.segmentsOf query' compName

theorem KeepsOrder.symm (h : KeepsOrder variant query query') : KeepsOrder variant query' query :=
  fun hvariant => (h hvariant).symm

/-- A resource of a query is the resource of the reordered query. -/
theorem build_eq_ok_of_reordered {path account resource : Text} (h : Query.Reordered query query')
    (hkeeps : KeepsOrder variant query query')
    (hbuild : build path query account variant = .ok resource) :
    build path query' account variant = .ok resource := by
  obtain ⟨parameters, hparse, rfl⟩ := build_eq_ok_iff.1 hbuild
  obtain ⟨parameters', hparse', hperm⟩ := h.exists_parse_eq_ok hparse
  have htail : tail parameters variant = tail parameters' variant := by
    by_cases hvariant : variant = .sharedKey
    · subst hvariant
      exact tail_of_perm hperm
    · exact tail_of_valuesOf hvariant (Query.valuesOf_congr hparse hparse' (hkeeps hvariant))
  exact build_eq_ok_iff.2 ⟨parameters', hparse', by rw [htail]⟩

/-- **The resource of a query does not tell the order of its segments, nor does its failure.** -/
theorem build_of_reordered (h : Query.Reordered query query')
    (hkeeps : KeepsOrder variant query query') (path account : Text) :
    (∃ resource, build path query account variant = .ok resource
        ∧ build path query' account variant = .ok resource)
      ∨ ∃ e e', build path query account variant = .error e
        ∧ build path query' account variant = .error e'
        ∧ e.kind = .malformedQuery ∧ e'.kind = .malformedQuery := by
  cases hbuild : build path query account variant with
  | ok resource => exact .inl ⟨resource, rfl, build_eq_ok_of_reordered h hkeeps hbuild⟩
  | error e =>
      cases hbuild' : build path query' account variant with
      | error e' => exact .inr ⟨e, e', rfl, rfl, kind_of_build hbuild, kind_of_build hbuild'⟩
      | ok resource =>
          have hback := build_eq_ok_of_reordered h.symm hkeeps.symm hbuild'
          rw [hbuild] at hback
          cases hback

/-- Without the order of `comp` the other variants do tell. -/
example : build [] "comp=a&comp=b".toList "x".toList .sharedKeyLite
    ≠ build [] "comp=b&comp=a".toList "x".toList .sharedKeyLite := by
  decide +kernel

end Resource

namespace Target

/-! ### Reading up to a question mark -/

/-- Where a question mark follows, the mark of a scheme is looked for before it. -/
theorem splitScheme_append (before rest : Text) :
    splitScheme (before ++ '?' :: rest)
      = if schemeMark.isPrefixOf (before.dropWhile isSchemeChar) then
          if maxScheme < (before.takeWhile isSchemeChar).length then .error .schemeTooLong
          else .ok (some (keptScheme (before.takeWhile isSchemeChar)),
            (before.dropWhile isSchemeChar).drop schemeMark.length ++ '?' :: rest)
        else .ok (none, before ++ '?' :: rest) := by
  have hquestion : isSchemeChar '?' = false := by decide
  have hmarkChars : '?' ∉ schemeMark := by decide
  rw [splitScheme, Text.takeWhile_append_stop hquestion, Text.dropWhile_append_stop hquestion,
    Text.isPrefixOf_append_stop hmarkChars]
  by_cases hmark : schemeMark.isPrefixOf (before.dropWhile isSchemeChar) = true
  · have hprefix := (List.isPrefixOf_iff_prefix.1 hmark).length_le
    have hdrop : (before.dropWhile isSchemeChar).length ≤ before.length :=
      (List.dropWhile_suffix _).length_le
    have hlength : schemeMark.length < (before ++ '?' :: rest).length := by
      rw [List.length_append, List.length_cons]
      omega
    rw [if_pos ⟨hmark, hlength⟩, if_pos hmark, List.drop_append_of_le_length hprefix]
  · rw [if_neg fun h => hmark h.1, if_neg hmark]

/-- The scheme is told from what stands before a question mark. -/
theorem exists_splitScheme_eq (before : Text) :
    ∃ answer : Except ParseError (Option Text × Text),
      (∀ scheme after, answer = .ok (scheme, after) → after <:+ before)
      ∧ ∀ rest, splitScheme (before ++ '?' :: rest)
        = answer.map fun (scheme, after) => (scheme, after ++ '?' :: rest) := by
  by_cases hmark : schemeMark.isPrefixOf (before.dropWhile isSchemeChar) = true
  · by_cases hlong : maxScheme < (before.takeWhile isSchemeChar).length
    · refine ⟨.error .schemeTooLong, nofun, fun rest => ?_⟩
      rw [splitScheme_append, if_pos hmark, if_pos hlong]
      rfl
    · refine ⟨.ok (some (keptScheme (before.takeWhile isSchemeChar)),
        (before.dropWhile isSchemeChar).drop schemeMark.length), ?_, fun rest => ?_⟩
      · intro scheme after hok
        obtain ⟨-, rfl⟩ := Prod.mk.inj (Except.ok.inj hok)
        exact (List.drop_suffix _ _).trans (List.dropWhile_suffix _)
      · rw [splitScheme_append, if_pos hmark, if_neg hlong]
        rfl
  · refine ⟨.ok (none, before), ?_, fun rest => ?_⟩
    · intro scheme after hok
      obtain ⟨-, rfl⟩ := Prod.mk.inj (Except.ok.inj hok)
      exact List.suffix_rfl
    · rw [splitScheme_append, if_neg hmark]
      rfl

/-- A path and a query that is written out. -/
theorem parsePathQuery_append {path query fragment : Text} (hquestion : '?' ∉ path)
    (hpath : '#' ∉ path) (hquery : '#' ∉ query) (hfragment : IsFragment fragment) :
    parsePathQuery (path ++ '?' :: (query ++ fragment))
      = if path.all isPathChar && query.all isQueryChar then .ok (path, some query)
        else .error .invalidCharacter := by
  have hhash : '#' ∉ path ++ '?' :: query := by
    rw [List.mem_append, List.mem_cons]
    rintro (hmem | hmem | hmem)
    · exact hpath hmem
    · exact absurd hmem (by decide)
    · exact hquery hmem
  rw [parsePathQuery, ← List.cons_append, ← List.append_assoc, dropFragment_append hhash hfragment,
    Text.cut_append_sep hquestion]
  rfl

/-! ### Urls with another query -/

/-- What comes of reading two urls that differ in their queries: the same failure, or targets that
differ in their queries. -/
inductive AlikeButQuery (query query' : Text) :
    Except ParseError Target → Except ParseError Target → Prop
  | error {reason : ParseError} : AlikeButQuery query query' (.error reason) (.error reason)
  | ok {target target' : Target} : target.queryText = query → target'.queryText = query' →
      target'.literalPath = target.literalPath →
      AlikeButQuery query query' (.ok target) (.ok target')

variable {before query query' fragment : Text}

/-- A path is read alike before queries of the same characters. -/
theorem alikeButQuery_parsePathQuery (path : Text) {make : Text × Option Text → Target}
    (hmakeQuery : ∀ q, (make (path, some q)).queryText = q)
    (hmakePath : ∀ q, (make (path, some q)).literalPath = path)
    (hperm : query.Perm query') (hquestion : '?' ∉ path) (hpath : '#' ∉ path)
    (hquery : '#' ∉ query) (hfragment : IsFragment fragment) :
    AlikeButQuery query query' ((parsePathQuery (path ++ '?' :: (query ++ fragment))).map make)
      ((parsePathQuery (path ++ '?' :: (query' ++ fragment))).map make) := by
  have hquery' : '#' ∉ query' := fun hmem => hquery (hperm.mem_iff.2 hmem)
  rw [parsePathQuery_append hquestion hpath hquery hfragment,
    parsePathQuery_append hquestion hpath hquery' hfragment, ← hperm.all_eq]
  split
  · exact .ok (hmakeQuery query) (hmakeQuery query')
      ((hmakePath query').trans (hmakePath query).symm)
  · exact .error

/-- So is a text that does not begin with a slash. -/
theorem alikeButQuery_parseWithAuthority (hperm : query.Perm query') (hquestion : '?' ∉ before)
    (hbefore : '#' ∉ before) (hquery : '#' ∉ query) (hfragment : IsFragment fragment) :
    AlikeButQuery query query' (parseWithAuthority (before ++ '?' :: (query ++ fragment)))
      (parseWithAuthority (before ++ '?' :: (query' ++ fragment))) := by
  have htake : ∀ after rest, (after ++ '?' :: rest).takeWhile (!endsAuthority ·)
      = after.takeWhile (!endsAuthority ·) := Text.takeWhile_append_stop (by decide)
  have hdrop : ∀ after rest, (after ++ '?' :: rest).dropWhile (!endsAuthority ·)
      = after.dropWhile (!endsAuthority ·) ++ '?' :: rest := Text.dropWhile_append_stop (by decide)
  have hne : ∀ after rest : Text, (after ++ '?' :: rest).isEmpty = false := by
    intro after rest
    rw [List.isEmpty_eq_false_iff]
    exact List.append_ne_nil_of_right_ne_nil after (List.cons_ne_nil '?' rest)
  obtain ⟨answer, hsuffix, hscheme⟩ := exists_splitScheme_eq before
  rw [parseWithAuthority, parseWithAuthority, hscheme, hscheme]
  cases answer with
  | error reason => exact .error
  | ok parts =>
      obtain ⟨scheme, after⟩ := parts
      simp only [Except.map, htake, hdrop, hne, Bool.false_eq_true, if_false]
      cases checkAuthority (after.takeWhile (!endsAuthority ·)) with
      | error reason => exact .error
      | ok _ =>
          cases scheme with
          | none => exact .error
          | some scheme =>
              have hpath : after.dropWhile (!endsAuthority ·) <:+ before :=
                (List.dropWhile_suffix _).trans (hsuffix _ after rfl)
              by_cases hempty : (after.takeWhile (!endsAuthority ·)).isEmpty = true
              · simp only [hempty, if_true]
                exact .error
              · simp only [hempty]
                exact alikeButQuery_parsePathQuery _ (fun _ => rfl) (fun _ => rfl) hperm
                  (fun hmem => hquestion (hpath.mem hmem)) (fun hmem => hbefore (hpath.mem hmem))
                  hquery hfragment

/-- **A url is read alike whatever the order of its query.** -/
theorem alikeButQuery_parse (hperm : query.Perm query') (hquestion : '?' ∉ before)
    (hbefore : '#' ∉ before) (hquery : '#' ∉ query) (hfragment : IsFragment fragment) :
    AlikeButQuery query query' (parse (before ++ '?' :: (query ++ fragment)))
      (parse (before ++ '?' :: (query' ++ fragment))) := by
  have hlength : Text.byteLength (before ++ '?' :: (query ++ fragment))
      = Text.byteLength (before ++ '?' :: (query' ++ fragment)) :=
    ((((hperm.append_right fragment).cons '?').append_left before).flatMap_right _).length_eq
  by_cases hlong : maxBytes < Text.byteLength (before ++ '?' :: (query ++ fragment))
  · rw [parse_of_tooLong hlong, parse_of_tooLong (hlength ▸ hlong)]
    exact .error
  · have hlong' : ¬ maxBytes < Text.byteLength (before ++ '?' :: (query' ++ fragment)) :=
      hlength ▸ hlong
    have hauthority := alikeButQuery_parseWithAuthority hperm hquestion hbefore hquery hfragment
    cases before with
    | nil =>
        by_cases hnil : query ++ fragment = []
        · -- the question mark alone, with either query
          obtain ⟨rfl, rfl⟩ := List.append_eq_nil_iff.1 hnil
          obtain rfl := hperm.nil_eq
          exact .error
        · have hnil' : query' ++ fragment ≠ [] :=
            fun heq => hnil (List.Perm.eq_nil (heq ▸ hperm.append_right fragment))
          rw [List.nil_append] at hlong hlong'
          rw [List.nil_append, List.nil_append, parse_cons_of_ne_slash (by decide) hnil hlong,
            parse_cons_of_ne_slash (by decide) hnil' hlong']
          exact hauthority
    | cons c before =>
        have hne : ∀ rest, before ++ '?' :: rest ≠ [] := fun rest =>
          List.append_ne_nil_of_right_ne_nil before (List.cons_ne_nil '?' rest)
        rw [List.cons_append] at hlong hlong'
        rw [List.cons_append, List.cons_append]
        by_cases hslash : c = '/'
        · subst hslash
          rw [parse_slash hlong, parse_slash hlong']
          exact alikeButQuery_parsePathQuery ('/' :: before) (fun _ => rfl) (fun _ => rfl) hperm
            hquestion hbefore hquery hfragment
        · rw [parse_cons_of_ne_slash hslash (hne _) hlong,
            parse_cons_of_ne_slash hslash (hne _) hlong']
          exact hauthority

end Target

/-! ### The authorization of a reordered url -/

/-- Two authorizations that are the same, or fail for the same part of the url. -/
def Authorization.Alike (x x' : Logged (Except Error Text)) : Prop :=
  x' = x ∨ ∃ e e', x = .silent (.error e) ∧ x' = .silent (.error e') ∧ e'.kind = e.kind
    ∧ (e.kind = .malformedUrl ∨ e.kind = .malformedQuery)

namespace Query.Reordered

variable {variant : Variant} {query query' : Text}

/-- Urls with reordered queries are both unreadable, or have resources of one path. -/
theorem ofUrl_eq (h : Reordered query query') {before fragment : Text} (hquestion : '?' ∉ before)
    (hbefore : '#' ∉ before) (hquery : '#' ∉ query) (hfragment : Target.IsFragment fragment)
    (account : Text) (variant : Variant) :
    (∃ reason, Resource.ofUrl (before ++ '?' :: (query ++ fragment)) account variant
        = .error (.unreadableUrl (before ++ '?' :: (query ++ fragment)) reason)
      ∧ Resource.ofUrl (before ++ '?' :: (query' ++ fragment)) account variant
        = .error (.unreadableUrl (before ++ '?' :: (query' ++ fragment)) reason))
    ∨ ∃ path, Resource.ofUrl (before ++ '?' :: (query ++ fragment)) account variant
        = Resource.build path query account variant
      ∧ Resource.ofUrl (before ++ '?' :: (query' ++ fragment)) account variant
        = Resource.build path query' account variant := by
  have halike := Target.alikeButQuery_parse h.perm hquestion hbefore hquery hfragment
  generalize hparse : Target.parse (before ++ '?' :: (query ++ fragment)) = answer at halike
  generalize hparse' : Target.parse (before ++ '?' :: (query' ++ fragment)) = answer' at halike
  cases halike with
  | @error reason =>
      refine .inl ⟨reason, ?_, ?_⟩
      · rw [Resource.ofUrl, hparse]
      · rw [Resource.ofUrl, hparse']
  | @ok target target' htarget htarget' hpath =>
      refine .inr ⟨target.literalPath, ?_, ?_⟩
      · rw [Resource.ofUrl_eq_build hparse, htarget]
      · rw [Resource.ofUrl_eq_build hparse', htarget', hpath]

/-- **Reordered queries have the same resource, and urls with them the same authorization.**  Each
time the other outcome is that both fail for the query; an unreadable url is unreadable with the
other query as well. -/
theorem signed_alike (h : Reordered query query')
    (hkeeps : Resource.KeepsOrder variant query query') :
    (∀ path account,
      (∃ resource, Resource.build path query account variant = .ok resource
        ∧ Resource.build path query' account variant = .ok resource)
      ∨ ∃ e e', Resource.build path query account variant = .error e
        ∧ Resource.build path query' account variant = .error e'
        ∧ e.kind = .malformedQuery ∧ e'.kind = .malformedQuery)
    ∧ ∀ verb before fragment headers credential, '?' ∉ before → '#' ∉ before → '#' ∉ query →
      Target.IsFragment fragment →
      Authorization.Alike
        (Authorization.ofUrl verb (before ++ '?' :: (query ++ fragment)) headers variant credential)
        (Authorization.ofUrl verb (before ++ '?' :: (query' ++ fragment)) headers variant
          credential) := by
  refine ⟨Resource.build_of_reordered h hkeeps, ?_⟩
  intro verb before fragment headers credential hquestion hbefore hquery hfragment
  rw [Authorization.ofUrl, Authorization.ofUrl]
  rcases h.ofUrl_eq hquestion hbefore hquery hfragment credential.account variant with
    ⟨reason, hurl, hurl'⟩ | ⟨path, hurl, hurl'⟩
  · rw [hurl, hurl']
    exact .inr ⟨_, _, rfl, rfl, rfl, .inl rfl⟩
  · rw [hurl, hurl']
    rcases Resource.build_of_reordered h hkeeps path credential.account with
      ⟨resource, hbuild, hbuild'⟩ | ⟨e, e', hbuild, hbuild', hkind, hkind'⟩
    · rw [hbuild, hbuild']
      exact .inl rfl
    · rw [hbuild, hbuild']
      exact .inr ⟨e, e', rfl, rfl, hkind'.trans hkind.symm, .inr hkind⟩

/-- A query with a name in two spellings, a segment that says nothing and one without a value, for a
variant that asks for the order of that name. -/
theorem signed_alike_two_spellings :
    Reordered "comp=x&a=1&%63omp=y&&a".toList "a&comp=x&&a=1&%63omp=y".toList
      ∧ Resource.KeepsOrder .sharedKeyLite "comp=x&a=1&%63omp=y&&a".toList
        "a&comp=x&&a=1&%63omp=y".toList
      ∧ Authorization.Alike
        (Authorization.ofUrl "GET".toList
          ("http://h/p".toList ++ '?' :: ("comp=x&a=1&%63omp=y&&a".toList ++ "#f?&".toList))
          HeaderMap.empty .sharedKeyLite ⟨"acct".toList, [0x6B]⟩)
        (Authorization.ofUrl "GET".toList
          ("http://h/p".toList ++ '?' :: ("a&comp=x&&a=1&%63omp=y".toList ++ "#f?&".toList))
          HeaderMap.empty .sharedKeyLite ⟨"acct".toList, [0x6B]⟩) := by
  have hreordered : Reordered "comp=x&a=1&%63omp=y&&a".toList "a&comp=x&&a=1&%63omp=y".toList := by
    unfold Reordered
    decide +kernel
  have hkeeps : Resource.KeepsOrder .sharedKeyLite "comp=x&a=1&%63omp=y&&a".toList
      "a&comp=x&&a=1&%63omp=y".toList := by
    intro _
    decide +kernel
  refine ⟨hreordered, hkeeps, (signed_alike hreordered hkeeps).2 _ _ _ _ _ ?_ ?_ ?_ ?_⟩
  · decide
  · decide
  · decide
  · exact .inr ⟨"f?&".toList, rfl⟩

end Query.Reordered

end SharedKey
