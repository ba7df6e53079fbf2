/-
**A fallible step over the members of a list.**

Parameters of a query, header fields and lines of the string to sign are all read member by member,
and the first failure is the failure of the whole.

Main results:

* `Fallible.map_eq_ok_iff`, `Fallible.map_eq_error_iff` — a change of the answer neither adds nor
  removes failures;
* `Fallible.mapM_congr` — the whole depends on the answers for the members only;
* `Fallible.mapM_cons_eq_ok_iff`, `Fallible.mapM_eq_ok_iff` — the whole succeeds exactly when every
  member does;
* `Fallible.exists_of_mem_of_mapM_eq_ok` — what the whole gives is what a member gives;
* `Fallible.exists_of_mapM_eq_error`, `Fallible.exists_mapM_eq_error_iff` — the failure of the whole
  is that of a member, and it fails exactly when a member does;
* `Fallible.mapM_of_forall_ok`, `Fallible.mapM_of_error` — the whole where every member succeeds,
  and where all failures are the same;
* `Fallible.exists_mapM_of_perm`, `Fallible.mapM_filter` — the members in another order, and some of
  them only.
-/

set_option relaxedAutoImplicit false
set_option autoImplicit false

namespace SharedKey

namespace Fallible

variable {α β ε : Type} {f : α → Except ε β}

/-- An answer that is changed afterwards succeeds exactly when the answer does. -/
theorem map_eq_ok_iff {x : Except ε α} {g : α → β} {b : β} :
    x.map g = .ok b ↔ ∃ a, x = .ok a ∧ g a = b := by
  cases x with
  | error e => simp [Except.map]
  | ok a => simp [Except.map]

/-- An answer that is changed afterwards fails exactly as the answer does. -/
theorem map_eq_error_iff {x : Except ε α} {g : α → β} {e : ε} :
    x.map g = .error e ↔ x = .error e := by
  cases x with
  | error e' => simp [Except.map]
  | ok a => simp [Except.map]

/-- A list succeeds exactly when its first member and the rest do. -/
theorem mapM_cons_eq_ok_iff {a : α} {l : List α} {r : List β} :
    (a :: l).mapM f = .ok r ↔ ∃ b r', f a = .ok b ∧ l.mapM f = .ok r' ∧ r = b :: r' := by
  rw [List.mapM_cons]
  cases f a with
  | error e => simp [bind, Except.bind]
  | ok b =>
      cases l.mapM f with
      | error e => simp [bind, Except.bind]
      | ok r' => simp [bind, Except.bind, pure, Except.pure, eq_comm]

/-- The whole depends on the answers for the members only. -/
theorem mapM_congr {g : α → Except ε β} {l : List α} (h : ∀ a ∈ l, f a = g a) :
    l.mapM f = l.mapM g := by
  induction l with
  | nil => rfl
  | cons a l ih =>
      obtain ⟨ha, hl⟩ := List.forall_mem_cons.1 h
      rw [List.mapM_cons, List.mapM_cons, ha, ih hl]

/-- The whole succeeds exactly when every member does. -/
theorem mapM_eq_ok_iff {l : List α} {r : List β} :
    l.mapM f = .ok r ↔ l.map f = r.map Except.ok := by
  induction l generalizing r with
  | nil => cases r <;> simp [pure, Except.pure]
  | cons a l ih =>
      rw [mapM_cons_eq_ok_iff]
      constructor
      · rintro ⟨b, r', hb, hr', rfl⟩
        rw [List.map_cons, List.map_cons, hb, ih.1 hr']
      · intro h
        cases r with
        | nil => simp at h
        | cons b r =>
            rw [List.map_cons, List.map_cons, List.cons.injEq] at h
            exact ⟨b, r, h.1, ih.2 h.2, rfl⟩

/-- What the whole gives is what a member gives. -/
theorem exists_of_mem_of_mapM_eq_ok {l : List α} {r : List β} (h : l.mapM f = .ok r) {b : β}
    (hb : b ∈ r) : ∃ a ∈ l, f a = .ok b := by
  have hmem : (Except.ok b : Except ε β) ∈ r.map Except.ok := List.mem_map_of_mem hb
  rw [← mapM_eq_ok_iff.1 h] at hmem
  exact List.mem_map.1 hmem

/-- The failure of the whole is that of a member. -/
theorem exists_of_mapM_eq_error {l : List α} {e : ε} (h : l.mapM f = .error e) :
    ∃ a ∈ l, f a = .error e := by
  induction l with
  | nil => simp [pure, Except.pure] at h
  | cons a l ih =>
      rw [List.mapM_cons] at h
      cases ha : f a with
      | error e' =>
          rw [ha] at h
          obtain rfl := Except.error.inj h
          exact ⟨a, List.mem_cons_self, ha⟩
      | ok b =>
          cases hl : l.mapM f with
          | error e' =>
              simp only [ha, hl, bind, Except.bind] at h
              obtain rfl := Except.error.inj h
              obtain ⟨x, hx, hfx⟩ := ih hl
              exact ⟨x, List.mem_cons_of_mem a hx, hfx⟩
          | ok r => simp [ha, hl, bind, Except.bind, pure, Except.pure] at h

/-- The whole fails exactly when a member does. -/
theorem exists_mapM_eq_error_iff {l : List α} :
    (∃ e, l.mapM f = .error e) ↔ ∃ a ∈ l, ∃ e, f a = .error e := by
  constructor
  · rintro ⟨e, he⟩
    obtain ⟨a, ha, hfa⟩ := exists_of_mapM_eq_error he
    exact ⟨a, ha, e, hfa⟩
  · rintro ⟨a, ha, e, he⟩
    cases hl : l.mapM f with
    | error e' => exact ⟨e', rfl⟩
    | ok r =>
        have hmem : f a ∈ l.map f := List.mem_map_of_mem ha
        rw [mapM_eq_ok_iff.1 hl, he] at hmem
        simp at hmem

/-- Where every member succeeds, so does the whole. -/
theorem mapM_of_forall_ok {g : α → β} {l : List α} (h : ∀ a ∈ l, f a = .ok (g a)) :
    l.mapM f = .ok (l.map g) := by
  rw [mapM_eq_ok_iff, List.map_map]
  exact List.map_congr_left h

/-- Where a member fails, and no member fails in another way, that is the failure of the whole. -/
theorem mapM_of_error {l : List α} {a : α} {e : ε} (ha : a ∈ l) (he : f a = .error e)
    (hall : ∀ b ∈ l, ∀ e', f b = .error e' → e' = e) : l.mapM f = .error e := by
  obtain ⟨e', he'⟩ := exists_mapM_eq_error_iff.2 ⟨a, ha, e, he⟩
  obtain ⟨b, hb, hfb⟩ := exists_of_mapM_eq_error he'
  rw [he', hall b hb e' hfb]

/-- In another order the same answers are given in another order. -/
theorem exists_mapM_of_perm {l l' : List α} (hperm : l.Perm l') {r : List β}
    (h : l.mapM f = .ok r) : ∃ r', l'.mapM f = .ok r' ∧ r.Perm r' := by
  induction hperm generalizing r with
  | nil => exact ⟨r, h, .refl r⟩
  | cons a _ ih =>
      obtain ⟨b, s, hb, hs, rfl⟩ := mapM_cons_eq_ok_iff.1 h
      obtain ⟨s', hs', hperm'⟩ := ih hs
      exact ⟨b :: s', mapM_cons_eq_ok_iff.2 ⟨b, s', hb, hs', rfl⟩, hperm'.cons b⟩
  | swap a a' l =>
      obtain ⟨b', s', hb', hs', rfl⟩ := mapM_cons_eq_ok_iff.1 h
      obtain ⟨b, s, hb, hs, rfl⟩ := mapM_cons_eq_ok_iff.1 hs'
      have hswapped : (a' :: l).mapM f = .ok (b' :: s) :=
        mapM_cons_eq_ok_iff.2 ⟨b', s, hb', hs, rfl⟩
      exact ⟨b :: b' :: s, mapM_cons_eq_ok_iff.2 ⟨b, b' :: s, hb, hswapped, rfl⟩, .swap b b' s⟩
  | trans _ _ ih ih' =>
      obtain ⟨s, hs, hperm⟩ := ih h
      obtain ⟨s', hs', hperm'⟩ := ih' hs
      exact ⟨s', hs', hperm.trans hperm'⟩

/-- Members may be left out before or after the step, where both ways keep the same ones. -/
theorem mapM_filter {p : α → Bool} {q : β → Bool} (hpq : ∀ a b, f a = .ok b → p a = q b)
    {l : List α} {r : List β} (h : l.mapM f = .ok r) :
    (l.filter p).mapM f = .ok (r.filter q) := by
  induction l generalizing r with
  | nil =>
      obtain rfl := Except.ok.inj h
      rfl
  | cons a l ih =>
      obtain ⟨b, s, hb, hs, rfl⟩ := mapM_cons_eq_ok_iff.1 h
      rw [List.filter_cons, List.filter_cons, hpq a b hb]
      split
      · exact mapM_cons_eq_ok_iff.2 ⟨b, s.filter q, hb, ih hs, rfl⟩
      · exact ih hs

end Fallible

end SharedKey
