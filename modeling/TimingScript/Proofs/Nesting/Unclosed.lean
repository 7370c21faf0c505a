import TimingScript.Proofs.Nesting
import TimingScript.Proofs.Residues
import Mathlib.Data.List.Induction

/-! # Unclosed loops — the stack behind any sequence of records

    A sequence of records need not be a program: a `DO_LOOP` may come where
    no loop is open, and an `END` where one is.  Such a record is refused,
    and the records behind it are encoded all the same.  Brackets that close
    nothing are therefore part of the words here, so that words are no
    longer split into what is open and balanced parts alone.

    `Unclosed` lists the openings of a word that have no partner in it.
    A part in front of which nothing is left open does not matter to those
    behind it (`Unclosed.behind`), which is all that a refused `DO_LOOP`
    adds to the invariant of a run: behind every sequence of records the
    stack holds the lines of those that open a loop which no later one
    closes (`LoopStack.exists_unclosed`). -/

namespace TimingScript

open Source (LineNumber)

namespace Bracket

/-! ## Openings without a partner -/

/-- The opening at `i` has no partner. -/
structure Unmatched (w : List Bracket) (i : Nat) : Prop where
  opens : w[i]? = some opening
  alone : ∀ j, ¬ Partners w i j

/-- Every opening of the word has a partner, whatever else it closes. -/
def Closed (w : List Bracket) : Prop :=
  ∀ i, ¬ Unmatched w i

/-- An opening stands in its word. -/
theorem Unmatched.lt_length {w : List Bracket} {i : Nat}
    (h : Unmatched w i) : i < w.length :=
  (List.getElem?_eq_some_iff.mp h.opens).1

/-- An opening without a partner shows that not all of them have one. -/
theorem Closed.exists_partner {w : List Bracket} (h : Closed w) {i : Nat}
    (hi : w[i]? = some opening) : ∃ j, Partners w i j := by
  by_contra hnone
  exact h i ⟨hi, fun j hj => hnone ⟨j, hj⟩⟩

/-- All openings of a balanced word are closed. -/
theorem Balanced.closed {w : List Bracket} (h : Balanced w) : Closed w := by
  intro i hi
  obtain ⟨j, hj⟩ := h.exists_partner hi.opens
  exact hi.alone j hj

/-- Partners stay partners in a longer word. -/
theorem Partners.within {v : List Bracket} {i j : Nat} (h : Partners v i j)
    (u r : List Bracket) :
    Partners (u ++ v ++ r) (u.length + i) (u.length + j) := by
  obtain ⟨front, body, back, rfl, rfl, rfl, hbody⟩ := h.split
  have hp := Partners.of_split (u := u ++ front) (r := back ++ r) hbody
  rw [List.length_append] at hp
  rw [show u ++ (front ++ opening :: (body ++ closing :: back)) ++ r
      = u ++ front ++ opening :: (body ++ closing :: (back ++ r)) by simp,
    ← Nat.add_assoc, ← Nat.add_assoc]
  exact hp

/-- What follows partners does not matter to them. -/
theorem Partners.of_append {w r : List Bracket} {i j : Nat}
    (h : Partners (w ++ r) i j) (hj : j < w.length) : Partners w i j := by
  obtain ⟨front, body, back, hw, rfl, rfl, hbody⟩ := h.split
  have hfront : front ++ opening :: (body ++ [closing]) <+: w ++ r :=
    ⟨back, by rw [hw]; simp⟩
  obtain ⟨rest, rfl⟩ := List.prefix_of_prefix_length_le hfront
    (List.prefix_append w r) (by simp; omega)
  have hp := Partners.of_split (u := front) (r := rest) hbody
  rw [show front ++ opening :: (body ++ [closing]) ++ rest
    = front ++ opening :: (body ++ closing :: rest) by simp]
  exact hp

/-- What precedes partners does not matter to them. -/
theorem Partners.of_append_left {u v : List Bracket} {i j : Nat}
    (h : Partners (u ++ v) (u.length + i) j) : ∃ k, Partners v i k := by
  obtain ⟨front, body, back, hw, hlen, -, hbody⟩ := h.split
  obtain ⟨rest, rfl⟩ := List.prefix_of_prefix_length_le
    (List.prefix_append u v) ⟨_, hw.symm⟩ (by omega)
  rw [List.append_assoc] at hw
  obtain rfl := List.append_cancel_left hw
  rw [List.length_append] at hlen
  obtain rfl : rest.length = i := by omega
  exact ⟨_, Partners.of_split hbody⟩

/-- Behind a word that is closed, openings have a partner or not as they
    have on their own. -/
theorem Closed.unmatched_append_iff {u v : List Bracket} (hu : Closed u)
    {i : Nat} :
    Unmatched (u ++ v) i ↔ ∃ k, i = u.length + k ∧ Unmatched v k := by
  constructor
  · intro h
    by_cases hi : i < u.length
    · -- the opening has its partner in the closed word already
      have hopens := h.opens
      rw [List.getElem?_append_left hi] at hopens
      obtain ⟨j, hj⟩ := hu.exists_partner hopens
      have hp := hj.within [] v
      simp only [List.nil_append, List.length_nil, Nat.zero_add] at hp
      exact absurd hp (h.alone j)
    · obtain ⟨k, rfl⟩ := Nat.exists_eq_add_of_le (Nat.not_lt.mp hi)
      have hopens := h.opens
      rw [List.getElem?_append_right (Nat.le_add_right _ _),
        Nat.add_sub_cancel_left] at hopens
      refine ⟨k, rfl, hopens, ?_⟩
      intro j hj
      have hp := hj.within u []
      rw [List.append_nil] at hp
      exact h.alone _ hp
  · rintro ⟨k, rfl, h⟩
    refine ⟨?_, ?_⟩
    · rw [List.getElem?_append_right (Nat.le_add_right _ _),
        Nat.add_sub_cancel_left]
      exact h.opens
    · intro j hj
      obtain ⟨m, hm⟩ := hj.of_append_left
      exact h.alone m hm

/-- Closed words can be put behind each other. -/
theorem Closed.append {u v : List Bracket} (hu : Closed u) (hv : Closed v) :
    Closed (u ++ v) := by
  intro i hi
  obtain ⟨k, -, hk⟩ := hu.unmatched_append_iff.mp hi
  exact hv k hk

/-- A closing bracket alone opens nothing. -/
theorem closed_closing : Closed [closing] := by
  intro i hi
  have hopens := hi.opens
  obtain rfl : i = 0 := Nat.lt_one_iff.mp hi.lt_length
  cases hopens

/-- An opening with a balanced word behind it has no partner, and takes none
    from the openings in front of it. -/
theorem unmatched_append_opening_iff {w v : List Bracket} (hv : Balanced v)
    {i : Nat} :
    Unmatched (w ++ opening :: v) i ↔ i = w.length ∨ Unmatched w i := by
  have hlast := LastUnmatched.of_split (u := w) hv
  constructor
  · intro h
    rcases Nat.lt_trichotomy i w.length with hlt | heq | hgt
    · have hopens := h.opens
      rw [List.getElem?_append_left hlt] at hopens
      refine .inr ⟨hopens, ?_⟩
      intro j hj
      have hp := hj.within [] (opening :: v)
      simp only [List.nil_append, List.length_nil, Nat.zero_add] at hp
      exact h.alone j hp
    · exact .inl heq
    · obtain ⟨j, hj⟩ := hlast.later i hgt h.opens
      exact absurd hj (h.alone j)
  · rintro (rfl | h)
    · exact ⟨hlast.opens, hlast.unmatched⟩
    · refine ⟨?_, ?_⟩
      · rw [List.getElem?_append_left h.lt_length]
        exact h.opens
      intro j hj
      by_cases hlt : j < w.length
      · exact h.alone j (hj.of_append hlt)
      -- the last opening would stand between partners, and have one itself
      obtain ⟨front, body, back, hw, rfl, rfl, hbody⟩ := hj.split
      have hin : body[w.length - (front.length + 1)]? = some opening := by
        have hopens := hlast.opens
        have hne : w.length ≠ front.length + 1 + body.length := by
          intro heq
          have hcloses := hj.closes
          rw [← heq, hlast.opens] at hcloses
          cases hcloses
        have hbefore := h.lt_length
        rw [hw, List.getElem?_append_right (by omega),
          show w.length - front.length
            = w.length - (front.length + 1) + 1 by omega,
          List.getElem?_cons_succ, List.getElem?_append_left (by omega)]
          at hopens
        exact hopens
      obtain ⟨k, hk⟩ := hbody.exists_partner hin
      have hp := hk.within (front ++ [opening]) (closing :: back)
      have hbefore := h.lt_length
      rw [show front ++ [opening] ++ body ++ closing :: back
          = front ++ opening :: (body ++ closing :: back) by simp, ← hw,
        show (front ++ [opening]).length
            + (w.length - (front.length + 1)) = w.length by simp; omega] at hp
      exact hlast.unmatched _ hp

/-! ## What a list leaves open -/

section

variable {α : Type} (bracket : α → Bracket)

/-- The elements of a list that open what nothing in it closes, the last one
    first. -/
def Unclosed (w stack : List α) : Prop :=
  ∃ positions : List Nat, positions.Pairwise (· > ·) ∧
    (∀ i, i ∈ positions ↔ Unmatched (w.map bracket) i) ∧
    positions.map (w[·]?) = stack.map some

variable {bracket}

/-- Openings that are not closed have no partner. -/
theorem Open.unclosed {w stack : List α} (h : Open bracket w stack) :
    Unclosed bracket w stack := by
  induction h with
  | balanced hw =>
      refine ⟨[], .nil, fun i => ?_, rfl⟩
      exact iff_of_false List.not_mem_nil (hw.closed i)
  | @under w stack body a hopen ha hbody ih =>
      obtain ⟨positions, hsorted, hmem, hat⟩ := ih
      have hbefore : ∀ i ∈ positions, i < w.length := by
        intro i hi
        have hlt := ((hmem i).mp hi).lt_length
        rwa [List.length_map] at hlt
      refine ⟨w.length :: positions, .cons hbefore hsorted, ?_, ?_⟩
      · intro i
        rw [List.map_append, List.map_cons, ha,
          unmatched_append_opening_iff hbody, List.length_map,
          List.mem_cons, hmem]
      · rw [List.map_cons, List.map_cons, ← hat]
        congr 1
        · simp
        · refine List.map_congr_left fun i hi => ?_
          exact List.getElem?_append_left (hbefore i hi)

/-- A list in which all is closed leaves open what was open. -/
theorem Unclosed.behind {u v stack : List α} (h : Unclosed bracket v stack)
    (hu : Closed (u.map bracket)) : Unclosed bracket (u ++ v) stack := by
  obtain ⟨positions, hsorted, hmem, hat⟩ := h
  refine ⟨positions.map (u.length + ·), ?_, ?_, ?_⟩
  · exact hsorted.map _ fun i j hij => Nat.add_lt_add_left hij u.length
  · intro i
    rw [List.map_append, hu.unmatched_append_iff, List.length_map]
    simp only [List.mem_map, hmem]
    constructor
    · rintro ⟨k, hk, rfl⟩
      exact ⟨k, rfl, hk⟩
    · rintro ⟨k, rfl, hk⟩
      exact ⟨k, hk, rfl⟩
  · rw [List.map_map, ← hat]
    refine List.map_congr_left fun i _ => ?_
    show (u ++ v)[u.length + i]? = v[i]?
    rw [List.getElem?_append_right (Nat.le_add_right _ _),
      Nat.add_sub_cancel_left]

end

end Bracket

open TimingScript.Bracket

/-! ## Sequences of records -/

/-- The bracket of a record. -/
def Record.bracket (record : Record) : Bracket :=
  record.opcode.bracket

namespace LoopStack

/-- The open loops behind records, be they encoded or refused. -/
def behind (records : List Record) : LoopStack :=
  records.foldl after empty

/-- One more record. -/
theorem behind_snoc (records : List Record) (record : Record) :
    behind (records ++ [record]) = (behind records).after record := by
  rw [behind, List.foldl_append]
  rfl

/-- In the last part of the records, in front of which all is closed, the
    open loops are those that its brackets leave open. -/
def Settles (records : List Record) (loops : LoopStack) : Prop :=
  ∃ u v, records = u ++ v ∧ Closed (u.map Record.bracket) ∧
    Tracks Record.bracket Record.line v loops

/-- One record keeps the invariant, also if it is refused. -/
theorem Settles.snoc {records : List Record} {loops : LoopStack}
    (h : Settles records loops) (record : Record) :
    Settles (records ++ [record]) (loops.after record) := by
  obtain ⟨u, v, rfl, hu, hv⟩ := h
  by_cases hstray : record.opcode = .doLoop ∧ loops.lines = []
  · -- nothing is open here, and the bracket joins the part that is closed
    obtain ⟨hd, hnone⟩ := hstray
    obtain rfl : loops = empty := congrArg LoopStack.mk hnone
    refine ⟨u ++ v ++ [record], [], by simp, ?_, ?_⟩
    · rw [List.map_append, List.map_append, List.map_singleton,
        Record.bracket, Opcode.bracket_eq_closing.mpr hd]
      exact (hu.append hv.balanced.closed).append closed_closing
    · rw [after, hd]
      exact .nil
  · refine ⟨u, v ++ [record], by simp, hu, hv.snoc ?_⟩
    exact follows_after fun hd hnone => hstray ⟨hd, hnone⟩

/-- The invariant holds behind all records. -/
theorem settles_behind (records : List Record) :
    Settles records (behind records) := by
  induction records using List.reverseRecOn with
  | nil => exact ⟨[], [], rfl, Balanced.nil.closed, .nil⟩
  | append_singleton records record ih =>
      rw [behind_snoc]
      exact ih.snoc record

/-- **What the stack holds.**  Behind any records it holds the lines of
    those that open a loop which no later one closes. -/
theorem exists_unclosed (records : List Record) :
    ∃ unclosed, Unclosed Record.bracket records unclosed ∧
      (behind records).lines = unclosed.map Record.line := by
  obtain ⟨u, v, hrecords, hu, stack, hopen, hlines⟩ := settles_behind records
  refine ⟨stack, ?_, hlines⟩
  rw [hrecords]
  exact hopen.unclosed.behind hu

end LoopStack

/-! ## Single steps -/

namespace Record

/-- What a record does where loops are open: its outcome, and the loops
    behind it. -/
structure Steps (record : Record) (loops : LoopStack)
    (outcome : Except CompileError (Noted Parameter)) (next : LoopStack) :
    Prop where
  opens : record.opcode = .loop →
    (∃ noted, outcome = .ok noted) ∧ next.lines = record.line :: loops.lines
  closes : ∀ opened outer, record.opcode = .doLoop →
    loops.lines = opened :: outer →
    (∃ noted, outcome = .ok noted ∧
      (noted.value.toNat : Int) = max 0 ((record.line : Int) - opened)) ∧
    next.lines = outer
  unopened : record.opcode = .doLoop → loops.lines = [] →
    outcome = .error ⟨record.line, .nothingToClose⟩ ∧ next.lines = []
  ends : record.opcode = .endProgram →
    ((∃ noted, outcome = .ok noted ∧ noted.value = 0) ↔ loops.lines = []) ∧
    (outcome = .error ⟨record.line, .endInsideLoop⟩ ↔ loops.lines ≠ []) ∧
    next = loops
  keeps : record.opcode ∉ [.loop, .doLoop, .endProgram] →
    (∃ noted, outcome = .ok noted) ∧ next = loops

/-- Every record on a line that has a number does what it has to. -/
theorem steps_encode {record : Record} (hline : record.line < Source.lineLimit)
    (loops : LoopStack) (clock : Clock) :
    record.Steps loops (record.encode loops clock) (loops.after record) where
  opens := by
    intro ho
    refine ⟨exists_encode_eq_ok (by simp [ho]) (by simp [ho]) loops clock, ?_⟩
    rw [LoopStack.after, ho]
  closes := by
    intro opened outer ho hlines
    obtain ⟨lines⟩ := loops
    obtain rfl : lines = opened :: outer := hlines
    refine ⟨⟨⟨Parameter.masked (record.line - opened), none⟩, ?_, ?_⟩, ?_⟩
    · rw [encode_doLoop ho]
      rfl
    · -- the distance is far below the largest parameter
      have hsmall : record.line - opened < Parameter.modulus :=
        calc record.line - opened
          _ ≤ record.line := Nat.sub_le _ _
          _ < Source.lineLimit := hline
          _ ≤ Parameter.modulus := by decide
      have hvalue : (Parameter.masked (record.line - opened)).toNat
          = record.line - opened :=
        (Parameter.toNat_masked _).trans (Nat.mod_eq_of_lt hsmall)
      show ((Parameter.masked (record.line - opened)).toNat : Int) = _
      rw [hvalue]
      omega
    · rw [LoopStack.after, ho]
      rfl
  unopened := by
    intro ho hnone
    obtain rfl : loops = .empty := congrArg LoopStack.mk hnone
    refine ⟨?_, ?_⟩
    · rw [encode_doLoop ho]
      rfl
    · rw [LoopStack.after, ho]
      rfl
  ends := by
    intro ho
    rw [encode_endProgram ho, LoopStack.after, ho]
    obtain ⟨lines⟩ := loops
    cases lines with
    | nil =>
        refine ⟨iff_of_true ⟨_, rfl, rfl⟩ rfl, iff_of_false ?_ (· rfl), rfl⟩
        intro h
        cases h
    | cons opened outer =>
        have hopen : opened :: outer ≠ [] := List.cons_ne_nil opened outer
        refine ⟨iff_of_false ?_ hopen, iff_of_true rfl hopen, rfl⟩
        rintro ⟨noted, h, -⟩
        cases h
  keeps := by
    intro ho
    simp only [List.mem_cons, List.not_mem_nil, or_false, not_or] at ho
    obtain ⟨hl, hd, he⟩ := ho
    refine ⟨exists_encode_eq_ok hd he loops clock, ?_⟩
    rw [LoopStack.after]
    cases hop : record.opcode with
    | loop => exact absurd hop hl
    | doLoop => exact absurd hop hd
    | _ => rfl

/-- **Records in any order.**  In front of each record of a sequence the
    stack holds the lines of those that open a loop which none of the
    records up to there closes; the record is encoded or refused as it has
    to be where these loops are open, and the stack behind it follows. -/
theorem encode_in_sequence (clock : Clock) {records : List Record}
    (hlines : ∀ record ∈ records, record.line < Source.lineLimit) (k : Nat) :
    (∃ unclosed, Unclosed Record.bracket (records.take k) unclosed ∧
      (LoopStack.behind (records.take k)).lines
        = unclosed.map Record.line) ∧
    ∀ record, records[k]? = some record →
      record.Steps (LoopStack.behind (records.take k))
        (record.encode (LoopStack.behind (records.take k)) clock)
        (LoopStack.behind (records.take (k + 1))) := by
  refine ⟨LoopStack.exists_unclosed _, ?_⟩
  intro record hk
  have hnext : LoopStack.behind (records.take (k + 1))
      = (LoopStack.behind (records.take k)).after record := by
    rw [List.take_add_one, hk]
    exact LoopStack.behind_snoc _ record
  rw [hnext]
  exact steps_encode (hlines record (List.mem_of_getElem? hk)) _ clock

/-- Two loops, of which the inner one stands on the earlier line, between
    records that are refused. -/
def disorderlyRecords : List Record :=
  [⟨.doLoop, none, 0, none, 7, false⟩, ⟨.loop, none, -1, none, 9, false⟩,
    ⟨.endProgram, none, 0, none, 3, false⟩,
    ⟨.loop, some "count", 281474976710656, none, 4, false⟩,
    ⟨.doLoop, none, 5, none, 2, false⟩, ⟨.doLoop, none, 0, none, 12, false⟩]

/-- The inner loop is closed on a line in front of it: its distance is cut
    off at zero, and the outer loop stays open. -/
theorem encode_in_sequence_disorderly :
    (∀ record ∈ disorderlyRecords, record.line < Source.lineLimit) ∧
    ∃ record, disorderlyRecords[4]? = some record ∧
      record.opcode = .doLoop ∧
      (LoopStack.behind (disorderlyRecords.take 4)).lines = [4, 9] ∧
      (∃ noted, record.encode
          (LoopStack.behind (disorderlyRecords.take 4)) ⟨40000000⟩
            = .ok noted ∧
        noted.value.toNat = 0) ∧
      (LoopStack.behind (disorderlyRecords.take 5)).lines = [9] := by
  have hlines : ∀ record ∈ disorderlyRecords,
      record.line < Source.lineLimit := by decide
  obtain ⟨-, hsteps⟩ := encode_in_sequence ⟨40000000⟩ hlines 4
  obtain ⟨⟨noted, he, hvalue⟩, hnext⟩ :=
    (hsteps ⟨.doLoop, none, 5, none, 2, false⟩ rfl).closes 4 [9] rfl rfl
  refine ⟨hlines, _, rfl, rfl, rfl, ⟨noted, he, ?_⟩, hnext⟩
  rw [show max 0 (((2 : Nat) : Int) - (4 : Nat)) = 0 by decide] at hvalue
  omega

end Record

end TimingScript
