import TimingScript.Opcode

/-! # Brackets — which `DO_LOOP` closes which `LOOP`

    As far as loops go, an operation opens one, closes one or does
    neither.  A program is seen here as a word of brackets, and words are
    described without any stack:

    * `Balanced` words are those that nest, by induction on their shape;
    * `Partners w i j` says that the bracket at `j` closes the one at `i`:
      `i` is the nearest opening in front of `j` with a balanced word
      between the two;
    * `Open b w stack` says that the openings of `stack`, innermost first,
      are those of `w` that nothing in `w` closes.

    In a balanced word every opening has a partner, and partners are
    unique on both sides.  A word with something open falls apart at its
    last opening without a partner. -/

namespace TimingScript

/-- What an operation does to the open loops. -/
inductive Bracket where
  | opening
  | closing
  | plain
deriving DecidableEq, Repr

/-- `LOOP` opens a loop and `DO_LOOP` closes one. -/
def Opcode.bracket : Opcode → Bracket
  | .loop => .opening
  | .doLoop => .closing
  | _ => .plain

/-- Only `LOOP` opens. -/
theorem Opcode.bracket_eq_opening {op : Opcode} :
    op.bracket = .opening ↔ op = .loop := by
  cases op <;> decide

/-- Only `DO_LOOP` closes. -/
theorem Opcode.bracket_eq_closing {op : Opcode} :
    op.bracket = .closing ↔ op = .doLoop := by
  cases op <;> decide

namespace Bracket

/-- Opening and closing a loop are different things. -/
theorem opening_ne_closing : opening ≠ closing := by
  decide

/-! ## Balanced words -/

/-- Words in which every bracket is closed or closes. -/
inductive Balanced : List Bracket → Prop where
  | nil : Balanced []
  | plain {rest : List Bracket} : Balanced rest → Balanced (plain :: rest)
  | nest {body rest : List Bracket} : Balanced body → Balanced rest →
      Balanced (opening :: (body ++ closing :: rest))

/-- Balanced words can be put behind each other. -/
theorem Balanced.append {u v : List Bracket} (hu : Balanced u)
    (hv : Balanced v) : Balanced (u ++ v) := by
  induction hu with
  | nil => exact hv
  | plain _ ih => exact .plain ih
  | @nest body rest hbody _ _ ih =>
      have h := Balanced.nest hbody ih
      rw [show opening :: (body ++ closing :: rest) ++ v
        = opening :: (body ++ closing :: (rest ++ v)) by simp]
      exact h

/-- A balanced word closes as often as it opens. -/
theorem Balanced.count_eq {w : List Bracket} (h : Balanced w) :
    w.count opening = w.count closing := by
  induction h with
  | nil => rfl
  | plain _ ih => simpa using ih
  | nest _ _ ihb ihr =>
      simp only [List.count_cons_self, List.count_append,
        List.count_cons_of_ne opening_ne_closing,
        List.count_cons_of_ne opening_ne_closing.symm]
      omega

/-- No prefix of a balanced word closes more often than it opens. -/
theorem Balanced.count_prefix {w : List Bracket} (h : Balanced w) :
    ∀ u v : List Bracket, w = u ++ v → u.count closing ≤ u.count opening := by
  induction h with
  | nil =>
      intro u v hw
      obtain ⟨rfl, -⟩ := List.append_eq_nil_iff.mp hw.symm
      exact Nat.le_refl _
  | plain _ ih =>
      intro u v hw
      rcases List.cons_eq_append_iff.mp hw with ⟨rfl, -⟩ | ⟨u', rfl, hr⟩
      · exact Nat.le_refl _
      · have := ih u' v hr
        simpa using this
  | @nest body rest hbody _ ihb ihr =>
      intro u v hw
      rcases List.cons_eq_append_iff.mp hw with ⟨rfl, -⟩ | ⟨u', rfl, hr⟩
      · exact Nat.le_refl _
      simp only [List.count_cons_self,
        List.count_cons_of_ne opening_ne_closing]
      rcases List.append_eq_append_iff.mp hr with ⟨t, rfl, ht⟩ | ⟨t, rfl, -⟩
      · -- the prefix reaches beyond the body
        have hb := hbody.count_eq
        rcases List.cons_eq_append_iff.mp ht with ⟨rfl, -⟩ | ⟨t', rfl, ht'⟩
        · simp only [List.append_nil]
          omega
        · have := ihr t' v ht'
          simp only [List.count_append, List.count_cons_self,
            List.count_cons_of_ne opening_ne_closing.symm]
          omega
      · have := ihb u' t rfl
        omega

/-- No suffix of a balanced word opens more often than it closes. -/
theorem Balanced.count_suffix {u v : List Bracket} (h : Balanced (u ++ v)) :
    v.count opening ≤ v.count closing := by
  have heq := h.count_eq
  have hle := h.count_prefix u v rfl
  simp only [List.count_append] at heq
  omega

/-- A balanced word does not go on with a closing bracket where the part
    in front of it is balanced. -/
theorem not_balanced_append_closing {u v : List Bracket} (hu : Balanced u) :
    ¬ Balanced (u ++ closing :: v) := by
  intro h
  have hle := h.count_prefix (u ++ [closing]) v (by simp)
  have heq := hu.count_eq
  simp only [List.count_append, List.count_cons_self, List.count_nil,
    List.count_cons_of_ne opening_ne_closing.symm] at hle
  omega

/-- A balanced word does not end with an opening bracket and a balanced
    word. -/
theorem not_balanced_append_opening {u v : List Bracket} (hv : Balanced v) :
    ¬ Balanced (u ++ opening :: v) := by
  intro h
  have hle := h.count_suffix
  have heq := hv.count_eq
  simp only [List.count_cons_self,
    List.count_cons_of_ne opening_ne_closing] at hle
  omega

/-- Behind each opening of a balanced word stands a balanced word and the
    bracket that closes it. -/
theorem Balanced.exists_closing {w : List Bracket} (h : Balanced w) :
    ∀ u v : List Bracket, w = u ++ opening :: v →
      ∃ body post, v = body ++ closing :: post ∧ Balanced body := by
  induction h with
  | nil =>
      intro u v hw
      exact absurd hw.symm (by simp)
  | plain _ ih =>
      intro u v hw
      rcases List.cons_eq_append_iff.mp hw with ⟨-, hv⟩ | ⟨u', -, hr⟩
      · cases hv
      · exact ih u' v hr
  | @nest body rest hbody _ ihb ihr =>
      intro u v hw
      rcases List.cons_eq_append_iff.mp hw with ⟨-, hv⟩ | ⟨u', -, hr⟩
      · -- the first bracket of the word
        exact ⟨body, rest, (List.cons.inj hv).2, hbody⟩
      -- any other opening lies behind the body or in it
      rcases List.append_eq_append_iff.mp hr with ⟨t, -, ht⟩ | ⟨t, hb, ht⟩
      · rcases List.cons_eq_append_iff.mp ht with ⟨-, hv⟩ | ⟨t', -, ht'⟩
        · cases hv
        · exact ihr t' v ht'
      · rcases List.cons_eq_append_iff.mp ht with ⟨-, hv⟩ | ⟨t', rfl, hv⟩
        · cases hv
        · obtain ⟨inner, post, rfl, hin⟩ := ihb u' t' hb
          exact ⟨inner, post ++ closing :: rest, by simp [hv], hin⟩

/-! ## Partners -/

/-- The brackets strictly between two positions of a word. -/
def between (w : List Bracket) (i j : Nat) : List Bracket :=
  (w.take j).drop (i + 1)

/-- The closing bracket at `j` belongs to the opening one at `i`: of the
    openings in front of `j` with a balanced word in between, it is the
    nearest. -/
structure Partners (w : List Bracket) (i j : Nat) : Prop where
  opens : w[i]? = some opening
  closes : w[j]? = some closing
  before : i < j
  inside : Balanced (between w i j)
  nearest : ∀ k, i < k → k < j → w[k]? = some opening →
    ¬ Balanced (between w k j)

/-- A list around the element at one of its positions. -/
theorem split_at {α : Type} {w : List α} {i : Nat} {x : α}
    (h : w[i]? = some x) : w = w.take i ++ x :: w.drop (i + 1) := by
  obtain ⟨hi, rfl⟩ := List.getElem?_eq_some_iff.mp h
  rw [List.getElem_cons_drop, List.take_append_drop]

/-- What lies between the end of a word and the end of a longer one. -/
theorem between_append (u v r : List Bracket) (x : Bracket) :
    between (u ++ x :: (v ++ r)) u.length (u.length + 1 + v.length) = v := by
  rw [between, show u ++ x :: (v ++ r) = (u ++ [x]) ++ (v ++ r) by simp,
    show u.length + 1 = (u ++ [x]).length by simp, ← List.length_append,
    ← List.append_assoc, List.take_left, List.drop_left]

/-- A balanced word between two brackets makes them partners. -/
theorem Partners.of_split {u v r : List Bracket} (hv : Balanced v) :
    Partners (u ++ opening :: (v ++ closing :: r)) u.length
      (u.length + 1 + v.length) where
  opens := by simp
  closes := by
    rw [show u ++ opening :: (v ++ closing :: r)
        = (u ++ opening :: v) ++ closing :: r by simp,
      List.getElem?_append_right (by simp; omega)]
    simp [Nat.add_assoc, Nat.add_comm 1]
  before := by omega
  inside := by
    rw [between_append]
    exact hv
  nearest := by
    intro k hik hkj hk hbal
    -- the opening at `k` lies in `v`, which then ends unbalanced
    obtain ⟨m, rfl⟩ : ∃ m, k = u.length + 1 + m := ⟨k - (u.length + 1), by omega⟩
    have hm : v[m]? = some opening := by
      rw [List.getElem?_append_right (by omega),
        show u.length + 1 + m - u.length = m + 1 by omega,
        List.getElem?_cons_succ, List.getElem?_append_left (by omega)] at hk
      exact hk
    obtain ⟨hlt, -⟩ := List.getElem?_eq_some_iff.mp hm
    have hv' : v = v.take m ++ opening :: v.drop (m + 1) := split_at hm
    have hbetween : between (u ++ opening :: (v ++ closing :: r))
        (u.length + 1 + m) (u.length + 1 + v.length) = v.drop (m + 1) := by
      have h := between_append (u ++ opening :: v.take m) (v.drop (m + 1))
        (closing :: r) opening
      rw [show (u ++ opening :: v.take m) ++ opening
            :: (v.drop (m + 1) ++ closing :: r)
          = u ++ opening :: ((v.take m ++ opening :: v.drop (m + 1))
            ++ closing :: r) by simp, ← hv'] at h
      rw [show (u ++ opening :: v.take m).length = u.length + 1 + m by
          simp [Nat.min_eq_left (Nat.le_of_lt hlt)]; omega,
        show u.length + 1 + m + 1 + (v.drop (m + 1)).length
          = u.length + 1 + v.length by simp; omega] at h
      exact h
    rw [hbetween] at hbal
    rw [hv'] at hv
    exact not_balanced_append_opening hbal hv

/-- Partners split their word into three parts. -/
theorem Partners.split {w : List Bracket} {i j : Nat} (h : Partners w i j) :
    ∃ u v r, w = u ++ opening :: (v ++ closing :: r) ∧ u.length = i ∧
      u.length + 1 + v.length = j ∧ Balanced v := by
  have hij := h.before
  obtain ⟨hj, -⟩ := List.getElem?_eq_some_iff.mp h.closes
  have hi : (w.take j)[i]? = some opening := by
    rw [List.getElem?_take_of_lt hij]
    exact h.opens
  refine ⟨w.take i, between w i j, w.drop (j + 1), ?_, ?_, ?_, h.inside⟩
  · have h1 := split_at h.closes
    have h2 := split_at hi
    rw [List.take_take, Nat.min_eq_left (Nat.le_of_lt hij)] at h2
    rw [h2] at h1
    simpa [between] using h1
  · simp; omega
  · simp [between]; omega

/-- A closing bracket belongs to one opening. -/
theorem Partners.opening_unique {w : List Bracket} {i i' j : Nat}
    (h : Partners w i j) (h' : Partners w i' j) : i = i' := by
  rcases Nat.lt_trichotomy i i' with hlt | heq | hgt
  · exact absurd h'.inside (h.nearest i' hlt h'.before h'.opens)
  · exact heq
  · exact absurd h.inside (h'.nearest i hgt h.before h.opens)

/-- An opening belongs to one closing bracket. -/
theorem Partners.closing_unique {w : List Bracket} {i j j' : Nat}
    (h : Partners w i j) (h' : Partners w i j') : j = j' := by
  obtain ⟨u, v, r, hw, hu, hj, hv⟩ := h.split
  obtain ⟨u', v', r', hw', hu', hj', hv'⟩ := h'.split
  rw [hw] at hw'
  obtain ⟨rfl, hrest⟩ := List.append_inj hw' (by omega)
  -- one body begins with the other, and goes on with a closing bracket
  -- unless the two are equal
  rcases List.append_eq_append_iff.mp (List.cons.inj hrest).2 with
    ⟨t, ht, hr⟩ | ⟨t, ht, hr⟩
  · rcases List.cons_eq_append_iff.mp hr with ⟨rfl, -⟩ | ⟨t', rfl, -⟩
    · rw [← hj, ← hj', ht, List.append_nil]
    · rw [ht] at hv'
      exact absurd hv' (not_balanced_append_closing hv)
  · rcases List.cons_eq_append_iff.mp hr with ⟨rfl, -⟩ | ⟨t', rfl, -⟩
    · rw [← hj, ← hj', ht, List.append_nil]
    · rw [ht] at hv
      exact absurd hv (not_balanced_append_closing hv')

/-- In a balanced word every opening has a partner. -/
theorem Balanced.exists_partner {w : List Bracket} (h : Balanced w) {i : Nat}
    (hi : w[i]? = some opening) : ∃ j, Partners w i j := by
  obtain ⟨hlt, -⟩ := List.getElem?_eq_some_iff.mp hi
  obtain ⟨v, r, hv, hbal⟩ := h.exists_closing _ _ (split_at hi)
  have hw := split_at hi
  rw [hv] at hw
  have hp := Partners.of_split (u := w.take i) (r := r) hbal
  rw [← hw, List.length_take, Nat.min_eq_left (Nat.le_of_lt hlt)] at hp
  exact ⟨_, hp⟩

/-- The opening at `i` has no partner, and every later one has. -/
structure LastUnmatched (w : List Bracket) (i : Nat) : Prop where
  opens : w[i]? = some opening
  unmatched : ∀ j, ¬ Partners w i j
  later : ∀ k, i < k → w[k]? = some opening → ∃ j, Partners w k j

/-- There is one last opening without a partner. -/
theorem LastUnmatched.unique {w : List Bracket} {i i' : Nat}
    (h : LastUnmatched w i) (h' : LastUnmatched w i') : i = i' := by
  rcases Nat.lt_trichotomy i i' with hlt | heq | hgt
  · obtain ⟨j, hj⟩ := h.later i' hlt h'.opens
    exact absurd hj (h'.unmatched j)
  · exact heq
  · obtain ⟨j, hj⟩ := h'.later i hgt h.opens
    exact absurd hj (h.unmatched j)

/-- An opening with only a balanced word behind it is the last one without
    a partner. -/
theorem LastUnmatched.of_split {u v : List Bracket} (hv : Balanced v) :
    LastUnmatched (u ++ opening :: v) u.length where
  opens := by simp
  unmatched := by
    intro j hj
    obtain ⟨u', v', r, hw, hu, -, hv'⟩ := hj.split
    obtain ⟨rfl, hrest⟩ := List.append_inj hw hu.symm
    -- the partner would close more than `v` opens
    rw [(List.cons.inj hrest).2] at hv
    exact not_balanced_append_closing hv' hv
  later := by
    intro k hk hopen
    have hm : v[k - (u.length + 1)]? = some opening := by
      rw [List.getElem?_append_right (by omega),
        show k - u.length = k - (u.length + 1) + 1 by omega,
        List.getElem?_cons_succ] at hopen
      exact hopen
    -- the later opening lies in `v`, which closes it
    have hsplit := split_at hm
    obtain ⟨hlt, -⟩ := List.getElem?_eq_some_iff.mp hm
    obtain ⟨body, r, hr, hbody⟩ := hv.exists_closing _ _ hsplit
    have hp := Partners.of_split (r := r) hbody
      (u := u ++ opening :: v.take (k - (u.length + 1)))
    rw [← hr, show u ++ opening :: v.take (k - (u.length + 1)) ++ opening
          :: v.drop (k - (u.length + 1) + 1)
        = u ++ opening :: (v.take (k - (u.length + 1)) ++ opening
          :: v.drop (k - (u.length + 1) + 1)) by simp, ← hsplit,
      show (u ++ opening :: v.take (k - (u.length + 1))).length = k by
        simp; omega] at hp
    exact ⟨_, hp⟩

/-! ## Open brackets -/

section

variable {α : Type} (bracket : α → Bracket)

/-- The openings of a list that nothing in it closes, innermost first. -/
inductive Open : List α → List α → Prop where
  | balanced {w : List α} : Balanced (w.map bracket) → Open w []
  | under {w stack body : List α} {a : α} : Open w stack →
      bracket a = opening → Balanced (body.map bracket) →
      Open (w ++ a :: body) (a :: stack)

variable {bracket}

/-- A balanced word leaves open what is open. -/
theorem Open.append {w v stack : List α} (h : Open bracket w stack)
    (hv : Balanced (v.map bracket)) : Open bracket (w ++ v) stack := by
  cases h with
  | balanced hw =>
      refine .balanced ?_
      rw [List.map_append]
      exact hw.append hv
  | @under w' stack' body a hw ha hbody =>
      rw [List.append_assoc, List.cons_append]
      refine .under hw ha ?_
      rw [List.map_append]
      exact hbody.append hv

/-- A plain bracket leaves open what is open. -/
theorem Open.snoc_plain {w stack : List α} {a : α} (h : Open bracket w stack)
    (ha : bracket a = plain) : Open bracket (w ++ [a]) stack := by
  refine h.append ?_
  rw [List.map_singleton, ha]
  exact .plain .nil

/-- An opening bracket is the innermost one that is open. -/
theorem Open.snoc_opening {w stack : List α} {a : α}
    (h : Open bracket w stack) (ha : bracket a = opening) :
    Open bracket (w ++ [a]) (a :: stack) :=
  .under h ha .nil

/-- A closing bracket closes the innermost open one. -/
theorem Open.snoc_closing {w stack : List α} {a c : α}
    (h : Open bracket w (a :: stack)) (hc : bracket c = closing) :
    Open bracket (w ++ [c]) stack := by
  cases h with
  | @under w' _ body _ hw ha hbody =>
      rw [List.append_assoc]
      refine hw.append ?_
      rw [List.cons_append, List.map_cons, List.map_append, List.map_singleton,
        ha, hc]
      exact .nest hbody .nil

/-- What is open is opened and not closed. -/
theorem Open.count_eq {w stack : List α} (h : Open bracket w stack) :
    (w.map bracket).count opening
      = (w.map bracket).count closing + stack.length := by
  induction h with
  | balanced hw => exact hw.count_eq
  | under _ ha hbody ih =>
      have hb := hbody.count_eq
      simp only [List.map_append, List.map_cons, ha, List.count_append,
        List.count_cons_self, List.length_cons,
        List.count_cons_of_ne opening_ne_closing]
      omega

/-- A list with nothing open is balanced. -/
theorem Open.balanced_of_nil {w : List α} (h : Open bracket w []) :
    Balanced (w.map bracket) := by
  cases h with
  | balanced hw => exact hw

/-- A list splits at its innermost open bracket. -/
theorem Open.split {w stack : List α} {a : α}
    (h : Open bracket w (a :: stack)) :
    ∃ u v, w = u ++ a :: v ∧ bracket a = opening ∧
      Balanced (v.map bracket) := by
  cases h with
  | @under u _ v _ _ ha hv => exact ⟨u, v, rfl, ha, hv⟩

end

end Bracket

end TimingScript
