import Mathlib.Data.List.Forall2
import TimingScript.Source.Lines

/-! # Numbered lines — the k-th line has the number k

    Lines are numbered without gaps from 1, so in a text with fewer lines
    than there are numbers the number of a line is its place in the text,
    and numbers grow along the text.  In a longer text the number is the
    place up to multiples of `lineLimit`.  What is made of lines one by one
    is in the order of the lines (`Placed`).  A text that ends with a whole
    line can be followed by another one, whose lines are then the last
    ones. -/

namespace TimingScript.Source

/-! ## Numbers -/

/-- The numbers of the first lines are their places. -/
theorem numberAt_of_lt {k : Nat} (h : k + 1 < lineLimit) :
    numberAt k = k + 1 := Nat.mod_eq_of_lt h

/-- Every number is one of those that there are. -/
theorem numberAt_lt (k : Nat) : numberAt k < lineLimit :=
  Nat.mod_lt _ (by decide)

/-- The line at a place, counted from zero, has the number of that place. -/
theorem getElem?_numberedLines (text : String) (k : Nat) :
    (numberedLines text)[k]?
      = (lines text)[k]?.map fun s => (numberAt k, s) := by
  rw [numberedLines, List.getElem?_map, List.getElem?_zipIdx, Option.map_map,
    Nat.zero_add]
  rfl

/-- Numbering adds nothing but numbers. -/
theorem map_snd_numberedLines (text : String) :
    (numberedLines text).map Prod.snd = lines text := by
  apply List.ext_getElem?
  intro k
  rw [List.getElem?_map, getElem?_numberedLines, Option.map_map]
  cases (lines text)[k]? <;> rfl

/-- There is a number for each line. -/
theorem length_numberedLines (text : String) :
    (numberedLines text).length = (lines text).length := by
  rw [← map_snd_numberedLines, List.length_map]

/-- A numbered line is one of the lines. -/
theorem mem_lines_of_mem_numberedLines {text source : String}
    {line : LineNumber} (h : (line, source) ∈ numberedLines text) :
    source ∈ lines text := by
  rw [← map_snd_numberedLines]
  exact List.mem_map_of_mem h

section

variable {text : String} (hsize : (lines text).length < lineLimit)

include hsize

/-- In a text that has a number for each line, the place of a line is its
    number. -/
theorem numberAt_of_lt_length {k : Nat} (hk : k < (lines text).length) :
    numberAt k = k + 1 :=
  numberAt_of_lt (Nat.lt_of_le_of_lt hk hsize)

/-- A numbered line stands at the place that its number gives. -/
theorem getElem?_of_mem_numberedLines {line : LineNumber} {source : String}
    (h : (line, source) ∈ numberedLines text) :
    1 ≤ line ∧ (lines text)[line - 1]? = some source := by
  obtain ⟨k, hk⟩ := List.getElem?_of_mem h
  rw [getElem?_numberedLines] at hk
  obtain ⟨s, hs, hpair⟩ := Option.map_eq_some_iff.mp hk
  obtain ⟨hlt, -⟩ := List.getElem?_eq_some_iff.mp hs
  rw [numberAt_of_lt_length hsize hlt] at hpair
  obtain ⟨rfl, rfl⟩ := Prod.mk.inj hpair
  exact ⟨Nat.le_add_left 1 k, hs⟩

/-- Numbers grow along the text. -/
theorem pairwise_numberedLines :
    (numberedLines text).Pairwise fun p q => p.1 < q.1 := by
  rw [List.pairwise_iff_getElem]
  intro i j hi hj hij
  have hat : ∀ k (hk : k < (numberedLines text).length),
      ((numberedLines text)[k]).1 = k + 1 := by
    intro k hk
    have h := getElem?_numberedLines text k
    rw [List.getElem?_eq_getElem hk] at h
    obtain ⟨s, hs, hpair⟩ := Option.map_eq_some_iff.mp h.symm
    obtain ⟨hlt, -⟩ := List.getElem?_eq_some_iff.mp hs
    rw [← hpair]
    exact numberAt_of_lt_length hsize hlt
  rw [hat i hi, hat j hj]
  exact Nat.add_lt_add_right hij 1

/-- A number belongs to one line. -/
theorem eq_of_mem_numberedLines {source other : String} {line : LineNumber}
    (h : (line, source) ∈ numberedLines text)
    (hother : (line, other) ∈ numberedLines text) : source = other := by
  obtain ⟨-, hat⟩ := getElem?_of_mem_numberedLines hsize h
  obtain ⟨-, hat'⟩ := getElem?_of_mem_numberedLines hsize hother
  exact Option.some.inj (hat.symm.trans hat')

end

/-! ## What stands on lines -/

/-- What belongs to lines one by one belongs to one of them. -/
theorem exists_line_of_mem_right {α : Type}
    {R : LineNumber × String → α → Prop} {lines : List (LineNumber × String)}
    {parts : List α} (h : List.Forall₂ R lines parts) {part : α}
    (hpart : part ∈ parts) : ∃ numbered ∈ lines, R numbered part := by
  induction h with
  | nil => cases hpart
  | @cons numbered _ _ _ hfirst _ ih =>
      rcases List.mem_cons.mp hpart with rfl | hpart
      · exact ⟨numbered, List.mem_cons_self, hfirst⟩
      · obtain ⟨other, hmem, hother⟩ := ih hpart
        exact ⟨other, List.mem_cons_of_mem _ hmem, hother⟩

/-- To each line belongs what is made of it. -/
theorem exists_part_of_mem_left {α : Type}
    {R : LineNumber × String → α → Prop} {lines : List (LineNumber × String)}
    {parts : List α} (h : List.Forall₂ R lines parts)
    {numbered : LineNumber × String} (hline : numbered ∈ lines) :
    ∃ part ∈ parts, R numbered part := by
  induction h with
  | nil => cases hline
  | @cons _ part _ _ hfirst _ ih =>
      rcases List.mem_cons.mp hline with rfl | hline
      · exact ⟨part, List.mem_cons_self, hfirst⟩
      · obtain ⟨other, hmem, hother⟩ := ih hline
        exact ⟨other, List.mem_cons_of_mem _ hmem, hother⟩

/-- There is a list for each line, and what is in it stands on that line. -/
def Placed {α : Type} (place : α → LineNumber)
    (lines : List (LineNumber × String)) (parts : List (List α)) : Prop :=
  List.Forall₂ (fun numbered part => ∀ a ∈ part, place a = numbered.1) lines
    parts

namespace Placed

variable {α : Type} {place : α → LineNumber}
  {lines : List (LineNumber × String)} {parts : List (List α)}

/-- Everything stands on one of the lines. -/
theorem exists_line_of_mem (h : Placed place lines parts) {a : α}
    (ha : a ∈ parts.flatten) : ∃ numbered ∈ lines, place a = numbered.1 := by
  obtain ⟨part, hpart, ha⟩ := List.mem_flatten.mp ha
  obtain ⟨numbered, hmem, hplace⟩ := exists_line_of_mem_right h hpart
  exact ⟨numbered, hmem, hplace a ha⟩

/-- What stands on lines in order is in the order of the lines. -/
theorem pairwise_flatten (h : Placed place lines parts)
    (hlines : lines.Pairwise fun p q => p.1 < q.1) :
    parts.flatten.Pairwise fun a b => place a ≤ place b := by
  induction h with
  | nil => exact .nil
  | @cons numbered part _ _ hfirst hrest ih =>
      obtain ⟨hbehind, hlines⟩ := List.pairwise_cons.mp hlines
      rw [List.flatten_cons]
      refine List.pairwise_append.mpr ⟨?_, ih hlines, ?_⟩
      · refine List.pairwise_iff_forall_sublist.mpr ?_
        intro a b hsub
        have ha := hfirst a (hsub.subset List.mem_cons_self)
        have hb := hfirst b
          (hsub.subset (List.mem_cons_of_mem a List.mem_cons_self))
        exact Nat.le_of_eq (ha.trans hb.symm)
      · intro a ha b hb
        obtain ⟨other, hmem, hl⟩ := exists_line_of_mem hrest hb
        rw [hfirst a ha, hl]
        exact Nat.le_of_lt (hbehind other hmem)

/-- On a line there stands no more than what is in its list. -/
theorem countP_flatten_le (h : Placed place lines parts)
    (hlines : lines.Pairwise fun p q => p.1 < q.1) {bound : LineNumber → Nat}
    (hbound : List.Forall₂ (fun numbered part =>
      part.length ≤ bound numbered.1) lines parts) (line : LineNumber) :
    (parts.flatten.countP fun a => place a = line) ≤ bound line := by
  induction h with
  | nil => exact Nat.zero_le _
  | @cons numbered part others rest hfirst hrest ih =>
      obtain ⟨hbehind, hlines⟩ := List.pairwise_cons.mp hlines
      obtain ⟨hlength, hbound⟩ := List.forall₂_cons.mp hbound
      rw [List.flatten_cons, List.countP_append]
      by_cases hline : numbered.1 = line
      · -- all that is on later lines stands elsewhere
        have hlater : (rest.flatten.countP fun a => place a = line) = 0 := by
          refine List.countP_eq_zero.mpr fun a ha => ?_
          obtain ⟨other, hmem, hl⟩ := exists_line_of_mem hrest ha
          rw [decide_eq_true_eq, hl]
          exact Nat.ne_of_gt (hline ▸ hbehind other hmem)
        rw [hlater, Nat.add_zero, ← hline]
        exact Nat.le_trans List.countP_le_length hlength
      · have hnone : (part.countP fun a => place a = line) = 0 := by
          refine List.countP_eq_zero.mpr fun a ha => ?_
          rw [decide_eq_true_eq, hfirst a ha]
          exact hline
        rw [hnone, Nat.zero_add]
        exact ih hlines hbound

end Placed

/-! ## Texts in two parts -/

/-- The text ends with a whole line, so that another text behind it begins
    a new one. -/
def EndsLine (text : String) : Prop :=
  text = "" ∨ text.toList.getLast? = some '\n'

instance (text : String) : Decidable (EndsLine text) :=
  inferInstanceAs (Decidable (_ ∨ _))

/-- A line feed ends a segment. -/
theorem segments_newline (text : List Char) :
    segments ('\n' :: text)
      = ([], (segments text).1 :: (segments text).2) := rfl

/-- Any other character belongs to the first segment. -/
theorem segments_cons {c : Char} (hc : c ≠ '\n') (text : List Char) :
    segments (c :: text)
      = (c :: (segments text).1, (segments text).2) := by
  show (if c = '\n' then _ else _) = _
  rw [if_neg hc]
  rfl

/-- Behind a line feed the segments of the rest follow. -/
theorem segments_append_newline (front back : List Char) :
    segments (front ++ '\n' :: back)
      = ((segments front).1,
          (segments front).2 ++ (segments back).1 :: (segments back).2) := by
  induction front with
  | nil => rfl
  | cons c rest ih =>
      rw [List.cons_append]
      by_cases hc : c = '\n'
      · rw [hc, segments_newline, segments_newline, ih]
        rfl
      · rw [segments_cons hc, segments_cons hc, ih]

/-- Only the last segments are no whole lines. -/
theorem ofSegments_append (front : List (List Char)) {back : List (List Char)}
    (hback : back ≠ []) :
    ofSegments (front ++ back)
      = front.map stripReturn ++ ofSegments back := by
  have hlast : (front ++ back).getLast? = back.getLast? := by
    rw [List.getLast?_append, List.getLast?_eq_some_getLast hback]
    rfl
  rw [ofSegments, ofSegments, hlast, List.dropLast_append_of_ne_nil hback,
    List.map_append, List.append_assoc]

/-- The lines behind a whole line are those of the rest. -/
theorem lines_append {front : String} (hend : EndsLine front)
    (back : String) : lines (front ++ back) = lines front ++ lines back := by
  have hlines : ∀ (text : List Char) (rest : String),
      lines (String.ofList (text ++ ['\n']) ++ rest)
        = (((segments text).1 :: (segments text).2).map stripReturn).map
            String.ofList ++ lines rest := by
    intro text rest
    rw [lines, lines, String.toList_append, String.toList_ofList,
      List.append_assoc, List.singleton_append, segments_append_newline]
    dsimp only
    rw [← List.cons_append, ofSegments_append _ (List.cons_ne_nil _ _),
      List.map_append]
  rcases hend with rfl | hlast
  · rw [String.empty_append]
    rfl
  · obtain ⟨text, htext⟩ := List.getLast?_eq_some_iff.mp hlast
    obtain rfl : front = String.ofList (text ++ ['\n']) := by
      rw [← htext, String.ofList_toList]
    have hfront := hlines text ""
    rw [String.append_empty, show lines "" = [] from rfl,
      List.append_nil] at hfront
    rw [hlines text back, hfront]

/-- Lines with their numbers, of which the first stands at a given place. -/
def numberedFrom (place : Nat) (ls : List String) :
    List (LineNumber × String) :=
  (ls.zipIdx place).map fun (line, k) => (numberAt k, line)

/-- Lines behind others are numbered on. -/
theorem numberedFrom_append (place : Nat) (us vs : List String) :
    numberedFrom place (us ++ vs)
      = numberedFrom place us ++ numberedFrom (place + us.length) vs := by
  rw [numberedFrom, List.zipIdx_append, List.map_append]
  rfl

/-- The lines of a text behind a whole line are numbered on. -/
theorem numberedLines_append {front : String} (hend : EndsLine front)
    (back : String) :
    numberedLines (front ++ back)
      = numberedLines front
        ++ numberedFrom (lines front).length (lines back) := by
  have hall := numberedFrom_append 0 (lines front) (lines back)
  rw [Nat.zero_add, ← lines_append hend] at hall
  exact hall

/-! ## The first lines of a text -/

/-- Texts that begin with the same lines begin with the same numbered
    ones. -/
theorem take_numberedLines_congr {text other : String} {k : Nat}
    (h : (lines other).take k = (lines text).take k) :
    (numberedLines other).take k = (numberedLines text).take k := by
  apply List.ext_getElem?
  intro i
  by_cases hi : i < k
  · have hline := congrArg (fun ls : List String => ls[i]?) h
    rw [List.getElem?_take_of_lt hi, List.getElem?_take_of_lt hi] at hline
    rw [List.getElem?_take_of_lt hi, List.getElem?_take_of_lt hi,
      getElem?_numberedLines, getElem?_numberedLines, hline]
  · rw [List.getElem?_take_eq_none (Nat.not_lt.mp hi),
      List.getElem?_take_eq_none (Nat.not_lt.mp hi)]

/-- Texts that end with the same lines, behind as many others, end with the
    same numbered ones. -/
theorem drop_numberedLines_congr {text other : String} {k : Nat}
    (h : (lines text).drop k = (lines other).drop k) :
    (numberedLines text).drop k = (numberedLines other).drop k := by
  apply List.ext_getElem?
  intro i
  have hline := congrArg (fun ls : List String => ls[i]?) h
  rw [List.getElem?_drop, List.getElem?_drop] at hline
  rw [List.getElem?_drop, List.getElem?_drop, getElem?_numberedLines,
    getElem?_numberedLines, hline]

/-- The lines of a text are numbered like the first lines of a longer
    one. -/
theorem numberedLines_of_lines_eq_take {front text : String} {k : Nat}
    (h : lines front = (lines text).take k) :
    numberedLines front = (numberedLines text).take k := by
  have hlen : (lines front).length ≤ k := by
    rw [h]
    exact List.length_take_le k _
  have hsame : (lines front).take k = (lines text).take k := by
    rw [List.take_of_length_le hlen, h]
  rw [← take_numberedLines_congr hsame, List.take_of_length_le]
  rw [length_numberedLines]
  exact hlen

/-! ## Texts made of lines -/

/-- Lines below each other, with a line feed behind each. -/
def unlines (lines : List String) : String :=
  String.join (lines.map (· ++ "\n"))

/-- A text without line feeds is a single segment. -/
theorem segments_of_no_newline {text : List Char} (h : '\n' ∉ text) :
    segments text = (text, []) := by
  induction text with
  | nil => rfl
  | cons c rest ih =>
      obtain ⟨hc, hrest⟩ := List.ne_and_not_mem_of_not_mem_cons h
      rw [segments_cons (Ne.symm hc), ih hrest]

/-- A text without line feeds is one line, unless it is empty. -/
theorem lines_of_no_newline {text : String} (h : '\n' ∉ text.toList) :
    lines text = if text = "" then [] else [text] := by
  rw [lines, segments_of_no_newline h]
  dsimp only
  rw [ofSegments]
  by_cases hempty : text = ""
  · rw [if_pos hempty, hempty]
    rfl
  · rw [if_neg hempty, List.getLast?_singleton, Option.getD_some, if_neg]
    · rw [List.dropLast_singleton, List.map_nil, List.nil_append,
        List.map_singleton, String.ofList_toList]
    · rw [List.isEmpty_iff, String.toList_eq_nil_iff]
      exact hempty

/-- A text is a line without a line feed, or it has such a line, a line feed
    and a text behind it. -/
theorem line_induction {P : String → Prop}
    (last : ∀ line, '\n' ∉ line.toList → P line)
    (cons : ∀ line rest, '\n' ∉ line.toList → P rest →
      P (line ++ "\n" ++ rest)) (text : String) : P text := by
  have hfront : ∀ (cs front : List Char), '\n' ∉ front →
      P (String.ofList (front ++ cs)) := by
    intro cs
    induction cs with
    | nil =>
        intro front h
        rw [List.append_nil]
        exact last _ (by rw [String.toList_ofList]; exact h)
    | cons c rest ih =>
        intro front h
        by_cases hc : c = '\n'
        · have hsplit : String.ofList (front ++ c :: rest)
              = String.ofList front ++ "\n" ++ String.ofList rest := by
            rw [hc, ← List.singleton_append, ← List.append_assoc,
              String.ofList_append, String.ofList_append]
          rw [hsplit]
          exact cons _ _ (by rw [String.toList_ofList]; exact h)
            (ih [] List.not_mem_nil)
        · rw [← List.singleton_append, ← List.append_assoc]
          refine ih _ (List.not_mem_append h ?_)
          exact fun hmem => hc (List.mem_singleton.mp hmem).symm
  have h := hfront text.toList [] List.not_mem_nil
  rw [List.nil_append, String.ofList_toList] at h
  exact h

/-- A text whose first line is ended by a line feed. -/
theorem lines_line_append {line : String} (h : '\n' ∉ line.toList)
    (rest : String) :
    lines (line ++ "\n" ++ rest)
      = String.ofList (stripReturn line.toList) :: lines rest := by
  rw [lines, lines, String.toList_append, String.toList_append,
    show "\n".toList = ['\n'] from rfl, List.append_assoc,
    List.singleton_append, segments_append_newline,
    segments_of_no_newline h]
  dsimp only
  rw [List.nil_append, ← List.singleton_append,
    ofSegments_append _ (List.cons_ne_nil _ _), List.map_append]
  rfl

/-- Lines below each other are lines again, but for the carriage returns
    at their ends. -/
theorem lines_unlines {ls : List String} (h : ∀ line ∈ ls, '\n' ∉ line.toList) :
    lines (unlines ls)
      = ls.map fun line => String.ofList (stripReturn line.toList) := by
  induction ls with
  | nil => rfl
  | cons line rest ih =>
      have hcons : unlines (line :: rest) = line ++ "\n" ++ unlines rest := by
        rw [unlines, List.map_cons, String.join_cons]
        rfl
      rw [hcons, lines_line_append (h line List.mem_cons_self), List.map_cons,
        ih fun l hl => h l (List.mem_cons_of_mem _ hl)]

/-- Lines below each other end with a whole line. -/
theorem endsLine_unlines (ls : List String) : EndsLine (unlines ls) := by
  rcases List.eq_nil_or_concat ls with rfl | ⟨others, last, rfl⟩
  · exact .inl rfl
  · right
    have hlast : (unlines (others.concat last)).toList
        = (unlines others ++ last).toList ++ ['\n'] := by
      simp [unlines, String.join_append, String.toList_join]
    rw [hlast, List.getLast?_concat]

/-- Stripping a line of a carriage return adds no characters. -/
theorem mem_of_mem_stripReturn {c : Char} {line : List Char}
    (h : c ∈ stripReturn line) : c ∈ line := by
  rw [stripReturn] at h
  split at h
  · exact List.dropLast_subset line h
  · exact h

/-- A carriage return is stripped off the line that it was put behind. -/
theorem stripReturn_append_return (line : String) :
    String.ofList (stripReturn (line ++ "\r").toList) = line := by
  rw [String.toList_append, show "\r".toList = ['\r'] from rfl, stripReturn,
    List.getLast?_concat, if_pos rfl, List.dropLast_concat,
    String.ofList_toList]

/-- There is no line feed in a line. -/
theorem newline_not_mem_lines {text line : String} (h : line ∈ lines text) :
    '\n' ∉ line.toList := by
  induction text using line_induction with
  | last front hfront =>
      rw [lines_of_no_newline hfront] at h
      split at h
      · cases h
      · rw [List.mem_singleton.mp h]
        exact hfront
  | cons front rest hfront ih =>
      rw [lines_line_append hfront] at h
      rcases List.mem_cons.mp h with rfl | h
      · rw [String.toList_ofList]
        exact fun hnewline => hfront (mem_of_mem_stripReturn hnewline)
      · exact ih h

/-- The first lines of a text are a text of their own. -/
theorem exists_lines_eq_take (text : String) (k : Nat) :
    ∃ front, lines front = (lines text).take k := by
  -- a carriage return behind each line keeps the one that it may end with
  refine ⟨unlines (((lines text).take k).map (· ++ "\r")), ?_⟩
  rw [lines_unlines, List.map_map]
  · exact (List.map_congr_left fun line _ =>
      stripReturn_append_return line).trans (List.map_id _)
  · intro line hline
    obtain ⟨line', hmem, rfl⟩ := List.mem_map.mp hline
    rw [String.toList_append]
    intro hnewline
    rcases List.mem_append.mp hnewline with hn | hn
    · exact newline_not_mem_lines (List.mem_of_mem_take hmem) hn
    · exact absurd hn (by decide)

end TimingScript.Source
