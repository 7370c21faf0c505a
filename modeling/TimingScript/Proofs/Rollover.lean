import TimingScript.Proofs.Concatenation

/-! # Rollover — texts with more lines than there are numbers

    Blank lines in front of a text do nothing but number its lines on.  If
    there are enough of them, the numbers of the text begin anew with 0.
    Then a line no longer stands at the place that its number gives, and
    numbers do not grow along the text, which is why so much of what is said
    of line numbers is said of texts that have fewer lines. -/

namespace TimingScript

open Source (LineNumber)

namespace Source

/-- So many lines with nothing on them. -/
def blankLines (n : Nat) : String := unlines (List.replicate n "")

/-- The text behind so many blank lines that its first line has the last
    number and its second line the number 0. -/
def atRollover (text : String) : String :=
  blankLines (lineLimit - 2) ++ text

/-- Blank lines are blank. -/
theorem lines_blankLines (n : Nat) :
    lines (blankLines n) = List.replicate n "" := by
  have hfeed : ∀ line ∈ List.replicate n "", '\n' ∉ line.toList := by
    intro line hline
    rw [(List.mem_replicate.mp hline).2]
    exact List.not_mem_nil
  rw [blankLines, lines_unlines hfeed, List.map_replicate]
  rfl

/-- The lines behind blank lines are those of the text. -/
theorem lines_blankLines_append (n : Nat) (text : String) :
    lines (blankLines n ++ text) = List.replicate n "" ++ lines text := by
  rw [blankLines, lines_append (endsLine_unlines _), ← blankLines,
    lines_blankLines]

end Source

namespace Assembly

/-- Remarks leave an assembly as it is. -/
theorem compileLines_of_remarks (assembly : Assembly) (log : Array Event)
    {remarks : List (LineNumber × String)}
    (h : ∀ numbered ∈ remarks, Source.IsRemark numbered.2)
    (rest : List (LineNumber × String)) :
    assembly.compileLines log (remarks ++ rest)
      = assembly.compileLines log rest := by
  induction remarks with
  | nil => rfl
  | cons numbered others ih =>
      obtain ⟨line, source⟩ := numbered
      obtain ⟨hfirst, hothers⟩ := List.forall_mem_cons.mp h
      have hline : assembly.compileLine line source = assembly.done := by
        rw [compileLine, Source.Word.read_of_remark hfirst]
      rw [List.cons_append, compileLines, hline]
      exact ih hothers

/-- A text behind blank lines is compiled like one that begins at a later
    place. -/
theorem compileLines_blankLines (assembly : Assembly) (log : Array Event)
    (n : Nat) (text : String) :
    assembly.compileLines log
        (Source.numberedLines (Source.blankLines n ++ text))
      = assembly.compileLines log
          (Source.numberedFrom n (Source.lines text)) := by
  have hends : Source.EndsLine (Source.blankLines n) :=
    Source.endsLine_unlines _
  rw [Source.numberedLines_append hends, Source.lines_blankLines,
    List.length_replicate]
  apply compileLines_of_remarks
  rintro ⟨line, source⟩ hmem
  have hsource := Source.mem_lines_of_mem_numberedLines hmem
  rw [Source.lines_blankLines] at hsource
  rw [(List.mem_replicate.mp hsource).2]
  exact .inl rfl

/-- A text at the rollover is compiled from there on. -/
theorem compileLines_atRollover (assembly : Assembly) (log : Array Event)
    (text : String) :
    assembly.compileLines log
        (Source.numberedLines (Source.atRollover text))
      = assembly.compileLines log
          (Source.numberedFrom (Source.lineLimit - 2) (Source.lines text)) :=
  compileLines_blankLines assembly log _ text

end Assembly

end TimingScript
