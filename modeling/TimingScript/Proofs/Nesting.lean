import TimingScript.Proofs.Bracket
import TimingScript.Proofs.Growth

/-! # Nesting — the open loops of a run are the brackets left open

    The loop stack is compared with words of brackets.  One step, be it of
    a record or of a whole line, changes the open loops as its bracket
    says (`LoopStack.Follows`); therefore behind every part of a run the
    stack holds the lines of exactly those openings that nothing in that
    part closes (`LoopStack.Tracks`).  The invariant is proved once, for
    lists of anything that has a bracket and stands on a line, and is
    used for the rows of a program and for the lines of a text.

    A line that reads well can still be `Blocked`: a `DO_LOOP` where no
    loop is open, or an `END` where one is. -/

namespace TimingScript

open Source (LineNumber)
open TimingScript.Bracket

/-! ## One step -/

namespace LoopStack

/-- How a bracket on a line changes the open loops. -/
inductive Follows (line : LineNumber) :
    Bracket → LoopStack → LoopStack → Prop where
  | opens (loops : LoopStack) :
      Follows line opening loops ⟨line :: loops.lines⟩
  | closes (opened : LineNumber) (rest : List LineNumber) :
      Follows line closing ⟨opened :: rest⟩ ⟨rest⟩
  | keeps (loops : LoopStack) : Follows line plain loops loops

/-- A record changes the open loops as its bracket says, unless it is a
    `DO_LOOP` where no loop is open. -/
theorem follows_after {record : Record} {loops : LoopStack}
    (h : record.opcode = .doLoop → loops.lines ≠ []) :
    Follows record.line record.opcode.bracket loops (loops.after record) := by
  cases ho : record.opcode with
  | loop =>
      rw [after, ho]
      exact .opens loops
  | doLoop =>
      obtain ⟨lines⟩ := loops
      cases lines with
      | nil => exact absurd rfl (h ho)
      | cons opened rest =>
          rw [after, ho]
          exact .closes opened rest
  | _ =>
      rw [after, ho]
      exact .keeps loops

end LoopStack

namespace Record

/-- `DO_LOOP` needs an open loop and carries the distance to it. -/
theorem encode_doLoop {record : Record} (ho : record.opcode = .doLoop)
    (loops : LoopStack) (clock : Clock) :
    record.encode loops clock
      = match loops.innermost? with
        | none => .error ⟨record.line, .nothingToClose⟩
        | some opened =>
            .ok ⟨Parameter.masked (record.line - opened), none⟩ := by
  rw [encode, ho]
  rfl

/-- `END` needs that no loop is open. -/
theorem encode_endProgram {record : Record}
    (ho : record.opcode = .endProgram) (loops : LoopStack) (clock : Clock) :
    record.encode loops clock
      = if loops.isEmpty then .ok ⟨0, none⟩
        else .error ⟨record.line, .endInsideLoop⟩ := by
  rw [encode, ho]
  rfl

/-- All other operations are encoded wherever they stand. -/
theorem exists_encode_eq_ok {record : Record} (hd : record.opcode ≠ .doLoop)
    (he : record.opcode ≠ .endProgram) (loops : LoopStack) (clock : Clock) :
    ∃ noted, record.encode loops clock = .ok noted := by
  rw [encode]
  cases ho : record.opcode with
  | doLoop => exact absurd ho hd
  | endProgram => exact absurd ho he
  | dataRequest => dsimp only; split <;> exact ⟨_, rfl⟩
  | inc => dsimp only; split <;> exact ⟨_, rfl⟩
  | _ => exact ⟨_, rfl⟩

/-- A record that is encoded changes the open loops as its bracket
    says. -/
theorem follows_of_encode {record : Record} {loops : LoopStack}
    {clock : Clock} {noted : Noted Parameter}
    (h : record.encode loops clock = .ok noted) :
    LoopStack.Follows record.line record.opcode.bracket loops
      (loops.after record) := by
  refine LoopStack.follows_after fun ho hnone => ?_
  rw [encode_doLoop ho, LoopStack.innermost?, hnone] at h
  cases h

end Record

/-! ## Lines -/

/-- The bracket that a line of source stands for. -/
def Source.bracket (source : String) : Bracket :=
  match keyword? source with
  | some (.operation opcode) => opcode.bracket
  | _ => plain

/-- A line opens a loop if it begins with `LOOP`. -/
theorem Source.bracket_eq_opening {source : String} :
    bracket source = opening ↔ keyword? source = some (.operation .loop) := by
  rw [bracket]
  split
  · rename_i opcode hk
    rw [hk, Opcode.bracket_eq_opening]
    simp
  · rename_i hk
    exact ⟨fun h => absurd h (by decide), fun h => absurd h (hk _)⟩

/-- A line closes a loop if it begins with `DO_LOOP`. -/
theorem Source.bracket_eq_closing {source : String} :
    bracket source = closing
      ↔ keyword? source = some (.operation .doLoop) := by
  rw [bracket]
  split
  · rename_i opcode hk
    rw [hk, Opcode.bracket_eq_closing]
    simp
  · rename_i hk
    exact ⟨fun h => absurd h (by decide), fun h => absurd h (hk _)⟩

/-- A line that yields something changes the open loops as its bracket
    says. -/
theorem Yield.Made.follows {clock : Clock} {loops next : LoopStack}
    {line : LineNumber} {source : String} {y : Yield}
    (h : Made clock loops line source y next) :
    LoopStack.Follows line (Source.bracket source) loops next := by
  cases h with
  | blank hk =>
      rw [Source.bracket, hk]
      exact .keeps loops
  | written _ hw he =>
      rw [Source.bracket, hw.keyword, ← hw.line_eq]
      exact Record.follows_of_encode he
  | expanded hk _ =>
      rw [Source.bracket, hk]
      exact .keeps loops

/-- The line does not fit into the nesting of the open loops. -/
inductive LoopStack.Blocked (loops : LoopStack) (line : LineNumber)
    (source : String) : CompileError → Prop where
  | nothingToClose :
      Source.keyword? source = some (.operation .doLoop) →
      loops.lines = [] → Blocked loops line source ⟨line, .nothingToClose⟩
  | endInsideLoop :
      Source.keyword? source = some (.operation .endProgram) →
      loops.lines ≠ [] → Blocked loops line source ⟨line, .endInsideLoop⟩

/-- A written record cannot be encoded exactly where its line is
    blocked. -/
theorem Reading.Written.encode_eq_error_iff {line : LineNumber}
    {source : String} {record : Record} (hw : Written line source record)
    {loops : LoopStack} {clock : Clock} {error : CompileError} :
    record.encode loops clock = .error error
      ↔ loops.Blocked line source error := by
  have hk := hw.keyword
  have hl := hw.line_eq
  constructor
  · intro h
    -- only `DO_LOOP` and `END` look at the open loops
    by_cases hd : record.opcode = .doLoop
    · rw [Record.encode_doLoop hd, hl] at h
      obtain ⟨lines⟩ := loops
      cases lines with
      | nil =>
          rw [← Except.error.inj h]
          exact .nothingToClose (by rw [hk, hd]) rfl
      | cons opened rest => cases h
    · by_cases he : record.opcode = .endProgram
      · rw [Record.encode_endProgram he, hl] at h
        obtain ⟨lines⟩ := loops
        cases lines with
        | nil => cases h
        | cons opened rest =>
            rw [← Except.error.inj h]
            exact .endInsideLoop (by rw [hk, he])
              (List.cons_ne_nil opened rest)
      · obtain ⟨noted, hn⟩ := Record.exists_encode_eq_ok hd he loops clock
        rw [hn] at h
        cases h
  · intro h
    cases h with
    | nothingToClose hkw hempty =>
        have hd : record.opcode = .doLoop := by
          rw [hk] at hkw
          exact Keyword.operation.inj (Option.some.inj hkw)
        rw [Record.encode_doLoop hd, LoopStack.innermost?, hempty, hl]
        rfl
    | endInsideLoop hkw hopen =>
        have he : record.opcode = .endProgram := by
          rw [hk] at hkw
          exact Keyword.operation.inj (Option.some.inj hkw)
        rw [Record.encode_endProgram he, LoopStack.isEmpty,
          if_neg (by simpa using hopen), hl]

/-- A line that reads well has no yield exactly where it is blocked. -/
theorem Yield.ofLine_eq_error_iff {clock : Clock} {loops : LoopStack}
    {line : LineNumber} {source : String} {error : CompileError}
    (hacc : Source.Acceptable line source) :
    ofLine clock loops line source = .error error
      ↔ loops.Blocked line source error := by
  constructor
  · intro h
    rcases ofLine_eq_error h with hr | ⟨record, hw, he⟩
    · obtain ⟨reading, hreading⟩ := hacc
      rw [hr] at hreading
      cases hreading
    · exact hw.encode_eq_error_iff.mp he
  · intro hb
    obtain ⟨reading, hr⟩ := hacc
    have hk : ∃ opcode, Source.keyword? source = some (.operation opcode) := by
      cases hb with
      | nothingToClose hk _ => exact ⟨_, hk⟩
      | endInsideLoop hk _ => exact ⟨_, hk⟩
    obtain ⟨opcode, hk⟩ := hk
    obtain ⟨records, warnings⟩ := reading
    cases Reading.shape hr with
    | blank hk' => rw [hk'] at hk; cases hk
    | expanded hk' _ => rw [hk'] at hk; cases hk
    | written hw =>
        rw [ofLine, hr]
        show (ofRecords _ _ _ _).map _ = _
        rw [ofRecords, hw.encode_eq_error_iff.mpr hb]
        rfl

/-! ## The invariant of a run -/

section

variable {α : Type} {bracket : α → Bracket} {line : α → LineNumber}

/-- The open loops are the lines of the openings that are not closed. -/
def LoopStack.Tracks (bracket : α → Bracket) (line : α → LineNumber)
    (w : List α) (loops : LoopStack) : Prop :=
  ∃ stack, Open bracket w stack ∧ loops.lines = stack.map line

namespace LoopStack

/-- In front of everything no loop is open. -/
theorem Tracks.nil : Tracks bracket line [] empty :=
  ⟨[], .balanced .nil, rfl⟩

/-- One step keeps the invariant. -/
theorem Tracks.snoc {w : List α} {a : α} {loops next : LoopStack}
    (h : Tracks bracket line w loops)
    (hf : Follows (line a) (bracket a) loops next) :
    Tracks bracket line (w ++ [a]) next := by
  obtain ⟨stack, hopen, hlines⟩ := h
  -- the bracket is taken apart together with the step that it allows
  generalize hb : bracket a = b at hf
  cases hf with
  | opens =>
      refine ⟨a :: stack, hopen.snoc_opening hb, ?_⟩
      show line a :: loops.lines = _
      rw [hlines, List.map_cons]
  | closes opened rest =>
      cases stack with
      | nil => cases hlines
      | cons s stack' =>
          refine ⟨stack', hopen.snoc_closing hb, ?_⟩
          exact (List.cons.inj hlines).2
  | keeps => exact ⟨stack, hopen.snoc_plain hb, hlines⟩

/-- Behind a part of a run that leaves no loop open, the word of that part
    is balanced. -/
theorem Tracks.balanced {w : List α} (h : Tracks bracket line w empty) :
    Balanced (w.map bracket) := by
  obtain ⟨stack, hopen, hlines⟩ := h
  obtain rfl : stack = [] := List.map_eq_nil_iff.mp hlines.symm
  exact hopen.balanced_of_nil

/-- The innermost open loop is the last opening without a partner. -/
theorem Tracks.split {w : List α} {opened : LineNumber}
    {rest : List LineNumber}
    (h : Tracks bracket line w ⟨opened :: rest⟩) :
    ∃ u a v, w = u ++ a :: v ∧ line a = opened ∧ bracket a = opening ∧
      Balanced (v.map bracket) := by
  obtain ⟨stack, hopen, hlines⟩ := h
  cases stack with
  | nil => cases hlines
  | cons a stack' =>
      obtain ⟨u, v, hw, ha, hv⟩ := hopen.split
      exact ⟨u, a, v, hw, (List.cons.inj hlines).1.symm, ha, hv⟩

/-- A closing bracket that comes next belongs to the innermost open loop. -/
theorem Tracks.exists_partner {w : List α} {opened : LineNumber}
    {rest : List LineNumber} (h : Tracks bracket line w ⟨opened :: rest⟩)
    (r : List Bracket) :
    ∃ i a, w[i]? = some a ∧ line a = opened ∧
      Partners (w.map bracket ++ closing :: r) i w.length := by
  obtain ⟨u, a, v, rfl, rfl, ha, hv⟩ := h.split
  have hp := Partners.of_split (u := u.map bracket) (r := r) hv
  rw [List.length_map, List.length_map] at hp
  refine ⟨u.length, a, by simp, rfl, ?_⟩
  rw [List.map_append, List.map_cons, ha, List.append_assoc,
    List.cons_append, List.length_append, List.length_cons, Nat.add_comm _ 1,
    ← Nat.add_assoc]
  exact hp

/-- As many loops are open as were opened and not closed. -/
theorem Tracks.count_eq {w : List α} {loops : LoopStack}
    (h : Tracks bracket line w loops) :
    (w.map bracket).count opening
      = (w.map bracket).count closing + loops.lines.length := by
  obtain ⟨stack, hopen, hlines⟩ := h
  rw [hlines, List.length_map]
  exact hopen.count_eq

/-- Behind a part of a run whose word is balanced no loop is open. -/
theorem Tracks.eq_empty {w : List α} {loops : LoopStack}
    (h : Tracks bracket line w loops) (hb : Balanced (w.map bracket)) :
    loops = empty := by
  have hcount := h.count_eq
  rw [hb.count_eq] at hcount
  have hlen : loops.lines.length = 0 := by omega
  obtain ⟨lines⟩ := loops
  exact congrArg LoopStack.mk (List.length_eq_zero_iff.mp hlen)

end LoopStack

end

/-- Lines that have yields change the open loops as their brackets say. -/
theorem Yield.tracks_of_ofLines {clock : Clock} {last : LoopStack}
    {lines : List (LineNumber × String)} :
    ∀ {w : List (LineNumber × String)} {loops : LoopStack} {ys : List Yield},
      LoopStack.Tracks (fun numbered => Source.bracket numbered.2) Prod.fst w
        loops →
      ofLines clock loops lines = .ok (ys, last) →
      LoopStack.Tracks (fun numbered => Source.bracket numbered.2) Prod.fst
        (w ++ lines) last := by
  induction lines with
  | nil =>
      intro w loops ys htracks h
      obtain ⟨-, rfl⟩ := Prod.mk.inj (Except.ok.inj h)
      rw [List.append_nil]
      exact htracks
  | cons numbered rest ih =>
      intro w loops ys htracks h
      obtain ⟨line, source⟩ := numbered
      obtain ⟨y, next, zs, hy, hz, -⟩ := ofLines_cons_eq_ok h
      rw [← List.singleton_append, ← List.append_assoc]
      exact ih (htracks.snoc (ofLine_eq_ok hy).follows) hz

end TimingScript
