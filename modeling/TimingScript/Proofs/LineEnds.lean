import TimingScript.Proofs.Agreement
import TimingScript.Proofs.Lines

/-! # Line ends — a text means the same with carriage returns

    A carriage return in front of a line feed belongs to the end of the
    line, but only one does.  If a line ended with a carriage return before,
    that one becomes a part of the line when another one is put behind it.
    There it is a blank like others: the scanner takes it for a separator,
    a comment hides it, and a listing trims it (`Source.Alike`).  So nothing
    of a compilation changes, not even the columns of its errors. -/

namespace TimingScript

open Source (LineNumber Word)

/-! ## Carriage returns at the end of a line -/

/-- What ends a run of characters is not part of it. -/
theorem takeWhile_concat_of_neg {α : Type} {p : α → Bool} {a : α}
    (ha : p a = false) (l : List α) :
    (l ++ [a]).takeWhile p = l.takeWhile p := by
  induction l with
  | nil => exact List.takeWhile_cons_of_neg (by rw [ha]; decide)
  | cons b rest ih =>
      rw [List.cons_append, List.takeWhile_cons, List.takeWhile_cons, ih]

/-- What ends a run of characters stays behind it. -/
theorem dropWhile_concat_of_neg {α : Type} {p : α → Bool} {a : α}
    (ha : p a = false) (l : List α) :
    (l ++ [a]).dropWhile p = l.dropWhile p ++ [a] := by
  induction l with
  | nil => exact List.dropWhile_cons_of_neg (by rw [ha]; decide)
  | cons b rest ih =>
      rw [List.cons_append, List.dropWhile_cons, List.dropWhile_cons, ih]
      split <;> rfl

/-- The words of a line do not depend on a carriage return at its end. -/
theorem Source.Word.scan_concat_return (column : Nat) (cs : List Char) :
    scan column (cs ++ ['\r']) = scan column cs := by
  fun_induction scan column cs with
  | case1 column => simp [scan, isSeparator]
  | case2 column rest hcomment =>
      obtain ⟨d, others, rfl⟩ : ∃ d others, rest = d :: others := by
        cases rest with
        | nil => cases hcomment
        | cons d others => exact ⟨d, others, rfl⟩
      rw [List.cons_append, scan, if_pos rfl]
      exact if_pos hcomment
  | case3 column rest hcomment =>
      rw [List.cons_append, scan, if_pos rfl, if_neg]
      cases rest with
      | nil => decide
      | cons d others => exact hcomment
  | case4 column rest hslash =>
      rw [List.cons_append, scan, if_neg hslash, if_pos rfl]
  | case5 column c rest hslash hfeed hsep ih =>
      rw [List.cons_append, scan, if_neg hslash, if_neg hfeed, if_pos hsep]
      exact ih
  | case6 column c rest hslash hfeed hsep letters fault hs ih =>
      rw [List.cons_append, scan, if_neg hslash, if_neg hfeed, if_neg hsep]
      dsimp only
      rw [takeWhile_concat_of_neg (by decide),
        dropWhile_concat_of_neg (by decide), ih, hs]
  | case7 column c rest hslash hfeed hsep letters words hs ih =>
      rw [List.cons_append, scan, if_neg hslash, if_neg hfeed, if_neg hsep]
      dsimp only
      rw [takeWhile_concat_of_neg (by decide),
        dropWhile_concat_of_neg (by decide), ih, hs]

/-- A carriage return at the end of a text is trimmed. -/
theorem Text.trim_append_return (text : String) :
    trim (text ++ "\r") = trim text := by
  have hblank : isBlank '\r' = true := by decide
  rw [trim, trim, String.toList_append, show "\r".toList = ['\r'] from rfl,
    List.dropWhile_append]
  cases hfront : text.toList.dropWhile isBlank with
  | nil =>
      rw [List.isEmpty_nil, if_pos rfl, List.dropWhile_cons_of_pos hblank]
      rfl
  | cons c rest =>
      rw [List.isEmpty_cons, if_neg Bool.false_ne_true, List.reverse_concat,
        List.dropWhile_cons_of_pos hblank]

/-! ## Lines that are alike -/

/-- The lines have the same words in the same columns, or the same fault,
    and they are listed alike. -/
structure Source.Alike (source other : String) : Prop where
  words : Word.scan 1 source.toList = Word.scan 1 other.toList
  trimmed : Text.trim source = Text.trim other

namespace Source

/-- A line is like itself. -/
theorem Alike.refl (source : String) : Alike source source := ⟨rfl, rfl⟩

/-- A line is alike without the carriage return that it may end with. -/
theorem alike_stripReturn (line : String) :
    Alike (String.ofList (stripReturn line.toList)) line := by
  rw [stripReturn]
  split
  · rename_i hlast
    obtain ⟨cs, hcs⟩ := List.getLast?_eq_some_iff.mp hlast
    obtain rfl : line = String.ofList cs ++ "\r" := by
      rw [← String.toList_inj, hcs, String.toList_append,
        String.toList_ofList]
      rfl
    have htoList : (String.ofList cs ++ "\r").toList = cs ++ ['\r'] := by
      rw [String.toList_append, String.toList_ofList]
      rfl
    rw [htoList, List.dropLast_concat]
    refine ⟨?_, (Text.trim_append_return _).symm⟩
    rw [htoList, Word.scan_concat_return, String.toList_ofList]
  · rw [String.ofList_toList]
    exact .refl line

end Source

/-- Records yield the same on lines that are listed alike. -/
theorem Yield.ofRecords_of_trim {source other : String}
    (h : Text.trim source = Text.trim other) (clock : Clock)
    (records : List Record) :
    ∀ loops, ofRecords clock source loops records
      = ofRecords clock other loops records := by
  induction records with
  | nil => intro loops; rfl
  | cons record rest ih =>
      intro loops
      simp only [ofRecords, ih, Record.row, h]

/-- Lines that are alike have the same yield, wherever they stand. -/
theorem Source.Alike.ofLine_eq {source other : String}
    (h : Alike source other) (clock : Clock) (loops : LoopStack)
    (line : LineNumber) :
    Yield.ofLine clock loops line source
      = Yield.ofLine clock loops line other := by
  have hreading : Reading.ofLine line source = Reading.ofLine line other := by
    rw [Reading.ofLine, Reading.ofLine, Word.read, Word.read, h.words]
  rw [Yield.ofLine, Yield.ofLine, hreading]
  cases Reading.ofLine line other with
  | error e => rfl
  | ok reading =>
      show Yield.ofReading .. = Yield.ofReading ..
      rw [Yield.ofReading, Yield.ofReading,
        Yield.ofRecords_of_trim h.trimmed]

/-- Texts whose lines are alike compile alike. -/
theorem compile_of_alike (clock : Clock) {text other : String}
    (h : List.Forall₂ Source.Alike (Source.lines text)
      (Source.lines other)) : compile clock text = compile clock other := by
  refine compile_congr ((Source.forall₂_numberedLines h).imp ?_)
  rintro ⟨line, source⟩ ⟨_, source'⟩ ⟨rfl, halike⟩ loops
  exact halike.ofLine_eq clock loops line

/-! ## Texts with carriage returns -/

namespace Source

/-- The text with a carriage return in front of every line feed. -/
def withReturns (text : String) : String :=
  String.ofList (text.toList.flatMap fun c =>
    if c = '\n' then ['\r', '\n'] else [c])

/-- Carriage returns are put into the parts of a text one by one. -/
theorem withReturns_append (front back : String) :
    withReturns (front ++ back) = withReturns front ++ withReturns back := by
  rw [withReturns, withReturns, withReturns, String.toList_append,
    List.flatMap_append, String.ofList_append]

/-- Nothing is put into a text without line feeds. -/
theorem withReturns_of_no_newline {line : String}
    (h : '\n' ∉ line.toList) : withReturns line = line := by
  have hsingle : line.toList.flatMap
      (fun c => if c = '\n' then ['\r', '\n'] else [c]) = line.toList := by
    generalize line.toList = cs at h
    induction cs with
    | nil => rfl
    | cons c rest ih =>
        obtain ⟨hc, hrest⟩ := List.ne_and_not_mem_of_not_mem_cons h
        rw [List.flatMap_cons, if_neg (Ne.symm hc), ih hrest]
        rfl
  rw [withReturns, hsingle, String.ofList_toList]

/-- The lines of a text are like those that it has with carriage
    returns. -/
theorem forall₂_lines_withReturns (text : String) :
    List.Forall₂ Alike (lines text) (lines (withReturns text)) := by
  induction text using line_induction with
  | last line h =>
      rw [withReturns_of_no_newline h]
      exact List.forall₂_same.mpr fun source _ => .refl source
  | cons line rest h ih =>
      have hreturn : '\n' ∉ (line ++ "\r").toList := by
        rw [String.toList_append]
        exact List.not_mem_append h (by decide)
      rw [withReturns_append, withReturns_append,
        withReturns_of_no_newline h,
        show withReturns "\n" = "\r" ++ "\n" by decide,
        ← String.append_assoc, lines_line_append h,
        lines_line_append hreturn, stripReturn_append_return]
      exact .cons (alike_stripReturn line) ih

end Source

/-- **Line ends do not matter.**  A text compiles to the same program, or
    fails with the same error, if there is a carriage return in front of
    every line feed. -/
theorem compile_withReturns (clock : Clock) (text : String) :
    compile clock (Source.withReturns text) = compile clock text :=
  (compile_of_alike clock (Source.forall₂_lines_withReturns text)).symm

/-- The second of two carriage returns is trimmed, and hidden by a
    comment. -/
example : (compile ⟨40000000⟩ "WAIT 3\r\r\nEND // all\r\r\n").toOption.map
    (fun program => program.listing.toList.map ListingRow.source)
      = some ["WAIT 3", "END // all"] := by
  decide +kernel

end TimingScript
