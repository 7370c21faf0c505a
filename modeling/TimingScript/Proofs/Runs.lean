import TimingScript.Proofs.Words
import Mathlib.Data.List.Basic
import Mathlib.Data.List.TakeWhile

/-! # Runs — a line is read as its longest runs of letters

    What a text is read as can be said without a scanner.  The first slash
    or line feed of the text, its mark, ends the part in which words are
    looked for; a text without a mark counts as a whole.  The words of that
    part are its runs of characters other than separators that cannot be
    made longer (`RunIn`), in the order of their columns.  Only the mark
    decides whether the text is read at all: two slashes hide what follows
    them, whatever it is, and everything else that begins with a mark is
    refused at the column of the mark. -/

namespace TimingScript.Source.Word

/-- The characters that end the part of a text with words. -/
def isMark (c : Char) : Bool :=
  c = '/' || c = '\n'

/-- Letters are neither separators nor marks. -/
theorem isLetter_eq (c : Char) :
    isLetter c = (!isSeparator c && !isMark c) := by
  simp only [isLetter, isMark, bne, Bool.not_or, Bool.and_assoc]
  rfl

/-! ## Longest runs -/

/-- The word is a longest run of characters other than separators, in a
    text whose first character stands at `column`: on either side of it
    there is a separator or nothing. -/
inductive RunIn (column : Nat) (cs : List Char) : Word → Prop where
  | intro {before after : List Char} {text : String} :
      cs = before ++ (text.toList ++ after) → text.toList ≠ [] →
      (∀ c ∈ text.toList, isSeparator c = false) →
      (∀ c ∈ before.getLast?, isSeparator c = true) →
      (∀ c ∈ after.head?, isSeparator c = true) →
      RunIn column cs ⟨text, column + before.length⟩

/-- The words are the longest runs of a text, all of them and in order. -/
structure AreRuns (column : Nat) (cs : List Char) (words : List Word) :
    Prop where
  mem_iff : ∀ word, word ∈ words ↔ RunIn column cs word
  ordered : words.Pairwise fun word next => word.column < next.column

/-- What begins with a letter begins with a longest run. -/
theorem exists_run {c : Char} (hc : isSeparator c = false)
    (rest : List Char) :
    ∃ (text : String) (after : List Char), c :: rest = text.toList ++ after ∧
      text.toList ≠ [] ∧ (∀ d ∈ text.toList, isSeparator d = false) ∧
      ∀ d ∈ after.head?, isSeparator d = true := by
  refine ⟨String.ofList (c :: rest.takeWhile fun d => !isSeparator d),
    rest.dropWhile fun d => !isSeparator d, ?_, by simp, ?_, ?_⟩
  · rw [String.toList_ofList, List.cons_append,
      List.takeWhile_append_dropWhile]
  · intro d hd
    rw [String.toList_ofList] at hd
    rcases List.mem_cons.mp hd with rfl | hd
    · exact hc
    · simpa using List.mem_takeWhile_imp hd
  · intro d hd
    have hstop := List.head?_dropWhile_not (fun d => !isSeparator d) rest
    rw [Option.mem_def.mp hd] at hstop
    simpa using hstop

/-- A text is empty, or it begins with a separator or with a longest run. -/
theorem run_induction {P : List Char → Prop} (nil : P [])
    (separator : ∀ c rest, isSeparator c = true → P rest → P (c :: rest))
    (run : ∀ (text : String) (after : List Char), text.toList ≠ [] →
      (∀ c ∈ text.toList, isSeparator c = false) →
      (∀ c ∈ after.head?, isSeparator c = true) → P after →
      P (text.toList ++ after)) (cs : List Char) : P cs := by
  induction hn : cs.length using Nat.strongRecOn generalizing cs with
  | ind n ih =>
      cases cs with
      | nil => exact nil
      | cons c rest =>
          cases hc : isSeparator c with
          | true => exact separator c rest hc (ih _ (by simp [← hn]) rest rfl)
          | false =>
              obtain ⟨text, after, hsplit, hne, hin, hafter⟩ :=
                exists_run hc rest
              have hpos := List.length_pos_iff.mpr hne
              have hshort : after.length < n := by
                rw [← hn, hsplit, List.length_append]
                omega
              rw [hsplit]
              exact run text after hne hin hafter (ih _ hshort after rfl)

/-- There is no run in an empty text. -/
theorem not_runIn_nil (column : Nat) (word : Word) :
    ¬ RunIn column [] word := by
  rintro ⟨hsplit, hne, -, -, -⟩
  simp_all

/-- A separator in front only moves the runs of a text. -/
theorem runIn_separator_iff {c : Char} (hc : isSeparator c = true)
    {column : Nat} {rest : List Char} {word : Word} :
    RunIn column (c :: rest) word ↔ RunIn (column + 1) rest word := by
  constructor
  · rintro ⟨hsplit, hne, hin, hbefore, hafter⟩
    rename_i before after text
    cases before with
    | nil =>
        -- the run would begin with the separator
        obtain ⟨d, ds, hd⟩ := List.exists_cons_of_ne_nil hne
        rw [hd] at hsplit hin
        obtain rfl := (List.cons.inj hsplit).1
        rw [hin c List.mem_cons_self] at hc
        cases hc
    | cons d before =>
        rw [List.length_cons, Nat.add_comm before.length, ← Nat.add_assoc]
        refine .intro (List.cons.inj hsplit).2 hne hin ?_ hafter
        intro e he
        have hlast : e ∈ ([d] ++ before).getLast? :=
          List.mem_getLast?_append_of_mem_getLast? he
        exact hbefore e hlast
  · rintro ⟨rfl, hne, hin, hbefore, hafter⟩
    rename_i before after text
    rw [Nat.add_assoc, Nat.add_comm 1]
    refine @RunIn.intro _ _ (c :: before) after text rfl hne hin ?_ hafter
    intro d hd
    cases before with
    | nil =>
        obtain rfl : c = d := Option.some.inj hd
        exact hc
    | cons e before => exact hbefore d hd

/-- A longest run is all that can be read before the next separator. -/
theorem takeWhile_run {letters after : List Char}
    (hin : ∀ c ∈ letters, isSeparator c = false)
    (hafter : ∀ c ∈ after.head?, isSeparator c = true) :
    (letters ++ after).takeWhile (fun c => !isSeparator c) = letters := by
  rw [List.takeWhile_append_of_pos (by simpa using hin)]
  cases after with
  | nil => simp
  | cons c rest => simp [hafter c rfl]

/-- Behind a longest run the runs of a text go on where it ends. -/
theorem runIn_run_iff {column : Nat} {text : String} {after : List Char}
    {word : Word} (hne : text.toList ≠ [])
    (hin : ∀ c ∈ text.toList, isSeparator c = false)
    (hafter : ∀ c ∈ after.head?, isSeparator c = true) :
    RunIn column (text.toList ++ after) word
      ↔ word = ⟨text, column⟩ ∨ RunIn (column + text.length) after word := by
  constructor
  · rintro ⟨hsplit, hne', hin', hbefore, hafter'⟩
    rename_i before after' text'
    by_cases hfirst : before = []
    · -- two longest runs that begin together end together
      rw [hfirst, List.nil_append] at hsplit
      have hsame := takeWhile_run hin hafter
      rw [hsplit, takeWhile_run hin' hafter', String.toList_inj] at hsame
      left
      rw [hsame, hfirst]
      rfl
    · right
      rcases List.append_eq_append_iff.mp hsplit with
        ⟨between, hb, hrest⟩ | ⟨inner, hb, -⟩
      · rw [hb, List.length_append, String.length_toList, ← Nat.add_assoc]
        refine .intro hrest hne' hin' ?_ hafter'
        intro c hc
        apply hbefore
        rw [hb]
        exact List.mem_getLast?_append_of_mem_getLast? hc
      · -- a separator would stand inside of the first run
        have hlast := List.getLast_mem hfirst
        have hsep := hbefore _ (List.getLast_mem_getLast? hfirst)
        rw [hin _ (hb ▸ List.mem_append_left inner hlast)] at hsep
        cases hsep
  · rintro (rfl | ⟨rfl, hne', hin', hbefore, hafter'⟩)
    · exact @RunIn.intro _ _ [] after text rfl hne hin nofun hafter
    · rename_i before after' text'
      rw [Nat.add_assoc, ← String.length_toList, ← List.length_append]
      refine .intro (by rw [List.append_assoc]) hne' hin' ?_ hafter'
      intro c hc
      cases before with
      | nil =>
          -- the runs would not be apart
          obtain ⟨d, ds, hd⟩ := List.exists_cons_of_ne_nil hne'
          have hsep := hafter d (by rw [hd]; rfl)
          rw [hin' d (by rw [hd]; exact List.mem_cons_self)] at hsep
          cases hsep
      | cons b before =>
          rw [List.getLast?_append_of_ne_nil _ (List.cons_ne_nil b before)]
            at hc
          exact hbefore c hc

/-- A run begins at the first column of its text or behind it. -/
theorem RunIn.column_le {column : Nat} {cs : List Char} {word : Word}
    (h : RunIn column cs word) : column ≤ word.column := by
  obtain ⟨-, -, -, -, -⟩ := h
  exact Nat.le_add_right _ _

/-! ## All runs of a text -/

/-- An empty text has no runs. -/
theorem AreRuns.nil (column : Nat) : AreRuns column [] [] where
  mem_iff word := iff_of_false List.not_mem_nil (not_runIn_nil column word)
  ordered := List.Pairwise.nil

/-- A separator in front only moves the runs. -/
theorem AreRuns.separator {c : Char} (hc : isSeparator c = true)
    {column : Nat} {rest : List Char} {words : List Word}
    (h : AreRuns (column + 1) rest words) :
    AreRuns column (c :: rest) words where
  mem_iff word := by rw [h.mem_iff, runIn_separator_iff hc]
  ordered := h.ordered

/-- A longest run in front is one run more. -/
theorem AreRuns.run {column : Nat} {text : String} {after : List Char}
    {words : List Word} (hne : text.toList ≠ [])
    (hin : ∀ c ∈ text.toList, isSeparator c = false)
    (hafter : ∀ c ∈ after.head?, isSeparator c = true)
    (h : AreRuns (column + text.length) after words) :
    AreRuns column (text.toList ++ after) (⟨text, column⟩ :: words) where
  mem_iff word := by
    rw [List.mem_cons, h.mem_iff, runIn_run_iff hne hin hafter]
  ordered := by
    refine List.pairwise_cons.mpr ⟨?_, h.ordered⟩
    intro word hword
    have hpos := List.length_pos_iff.mpr hne
    have hle := ((h.mem_iff word).mp hword).column_le
    rw [String.length_toList] at hpos
    show column < word.column
    omega

/-- A text without marks is read as its runs, and what follows it is read
    behind it. -/
theorem exists_scan_append (cs : List Char) :
    (∀ c ∈ cs, isMark c = false) → ∀ column : Nat,
      ∃ words, AreRuns column cs words ∧
        ∀ rest : List Char, (∀ c ∈ rest.head?, isMark c = true) →
          scan column (cs ++ rest)
            = (scan (column + cs.length) rest).map (words ++ ·) := by
  induction cs using run_induction with
  | nil =>
      intro _ column
      refine ⟨[], .nil column, fun rest _ => ?_⟩
      show scan column rest = (scan column rest).map _
      cases scan column rest <;> rfl
  | separator c rest hc ih =>
      intro hmarks column
      obtain ⟨words, hruns, hscan⟩ :=
        ih (fun d hd => hmarks d (List.mem_cons_of_mem c hd)) (column + 1)
      refine ⟨words, hruns.separator hc, fun others hothers => ?_⟩
      rw [List.cons_append, scan_separator hc, hscan others hothers,
        List.length_cons, Nat.add_assoc, Nat.add_comm 1]
  | run text after hne hin hafter ih =>
      intro hmarks column
      obtain ⟨words, hruns, hscan⟩ :=
        ih (fun d hd => hmarks d (List.mem_append_right _ hd))
          (column + text.length)
      refine ⟨_, hruns.run hne hin hafter, fun others hothers => ?_⟩
      have hword : IsWord text := by
        refine ⟨hne, fun d hd => ?_⟩
        rw [isLetter_eq, hin d hd, hmarks d (List.mem_append_left after hd)]
        rfl
      have hstop : ∀ d ∈ (after ++ others).head?, isLetter d = false := by
        intro d hd
        rw [isLetter_eq]
        cases after with
        | nil => simp [hothers d hd]
        | cons e after => simp [hafter d hd]
      rw [List.append_assoc, scan_word hword column hstop,
        hscan others hothers, List.length_append, String.length_toList,
        Nat.add_assoc]
      cases scan (column + (text.length + after.length)) others <;> rfl

/-! ## Texts and their marks -/

/-- How a text is read, by the index of its first mark: as the runs in front
    of it, whatever stands behind two slashes, or not at all. -/
structure ReadByMark (line : LineNumber) (text : String) : Prop where
  whole : text.toList.findIdx? isMark = none →
    ∃ words, AreRuns 1 text.toList words ∧ read line text = .ok words
  comment : ∀ i : Nat, text.toList.findIdx? isMark = some i →
    text.toList[i]? = some '/' → text.toList[i + 1]? = some '/' →
    ∃ words, AreRuns 1 (text.toList.take i) words ∧
      read line text = .ok words ∧
      read line (String.ofList (text.toList.take i)) = .ok words ∧
      ∀ hidden, read line (String.ofList (text.toList.take i) ++ "//" ++ hidden)
        = .ok words
  slash : ∀ i : Nat, text.toList.findIdx? isMark = some i →
    text.toList[i]? = some '/' → text.toList[i + 1]? ≠ some '/' →
    read line text = .error ⟨line, .loneSlash (i + 1)⟩
  feed : ∀ i : Nat, text.toList.findIdx? isMark = some i →
    text.toList[i]? ≠ some '/' →
    text.toList[i]? = some '\n' ∧
      read line text = .error ⟨line, .strayCharacter (i + 1) '\n'⟩

/-- What two slashes hide is not read. -/
theorem scan_comment (column : Nat) (hidden : List Char) :
    scan column ('/' :: '/' :: hidden) = .ok [] := by
  rw [scan, if_pos rfl]
  rfl

/-- A slash is not read if no other one follows it. -/
theorem scan_lone_slash {rest : List Char} (h : rest.head? ≠ some '/')
    (column : Nat) :
    scan column ('/' :: rest) = .error (.loneSlash column) := by
  rw [scan, if_pos rfl, if_neg h]

/-- A line feed is not read. -/
theorem scan_feed (column : Nat) (rest : List Char) :
    scan column ('\n' :: rest) = .error (.strayCharacter column '\n') := by
  rw [scan, if_neg (by decide), if_pos rfl]

/-- The first mark of a text cuts it. -/
theorem split_at_mark {cs : List Char} {i : Nat}
    (h : cs.findIdx? isMark = some i) :
    ∃ mark, cs[i]? = some mark ∧ isMark mark = true ∧
      cs = cs.take i ++ mark :: cs.drop (i + 1) ∧
      (cs.take i).length = i ∧ ∀ c ∈ cs.take i, isMark c = false := by
  obtain ⟨hlt, hmark, hbefore⟩ := List.findIdx?_eq_some_iff_getElem.mp h
  refine ⟨cs[i], List.getElem?_eq_getElem hlt, hmark, ?_,
    List.length_take_of_le hlt.le, ?_⟩
  · rw [List.getElem_cons_drop, List.take_append_drop]
  · intro c hc
    obtain ⟨j, hj, rfl⟩ := List.getElem_of_mem hc
    rw [List.getElem_take]
    rw [List.length_take] at hj
    simpa using hbefore j (by omega)

/-- What is read in front of the first mark of a text is right whatever
    follows, but it is lost if the rest is refused. -/
theorem exists_scan_at_mark {cs : List Char} {i : Nat}
    (h : cs.findIdx? isMark = some i) :
    ∃ words, AreRuns 1 (cs.take i) words ∧
      scan 1 (cs.take i) = .ok words ∧
      (∀ hidden, scan 1 (cs.take i ++ '/' :: '/' :: hidden) = .ok words) ∧
      ∀ (mark : Char) (rest : List Char) (fault : Fault),
        isMark mark = true → scan (i + 1) (mark :: rest) = .error fault →
        scan 1 (cs.take i ++ mark :: rest) = .error fault := by
  obtain ⟨mark, -, -, -, hlen, hmarks⟩ := split_at_mark h
  obtain ⟨words, hruns, hscan⟩ := exists_scan_append _ hmarks 1
  rw [hlen, Nat.add_comm 1] at hscan
  refine ⟨words, hruns, ?_, ?_, ?_⟩
  · have hend := hscan [] nofun
    rw [List.append_nil, scan] at hend
    exact hend.trans (congrArg Except.ok (List.append_nil words))
  · intro hidden
    rw [hscan _ (by rintro c ⟨⟩; rfl), scan_comment]
    exact congrArg Except.ok (List.append_nil words)
  · intro mark rest fault hmark hfault
    rw [hscan _ (by rintro c ⟨⟩; exact hmark), hfault]
    rfl

/-- **A line is read as its longest runs.**  They are looked for in front of
    the first slash or line feed of the text.  A second slash hides what
    follows; without it the text is refused at the column of the first. -/
theorem read_by_mark (line : LineNumber) (text : String) :
    ReadByMark line text where
  whole := by
    intro h
    obtain ⟨words, hruns, hscan⟩ :=
      exists_scan_append text.toList (List.findIdx?_eq_none_iff.mp h) 1
    have hend := hscan [] nofun
    rw [List.append_nil, scan] at hend
    refine ⟨words, hruns, ?_⟩
    rw [read, hend]
    exact congrArg Except.ok (List.append_nil words)
  comment := by
    intro i h hfirst hsecond
    obtain ⟨mark, hmark, -, hsplit, -, -⟩ := split_at_mark h
    obtain rfl : '/' = mark := Option.some.inj (hfirst.symm.trans hmark)
    obtain ⟨words, hruns, hfront, hhidden, -⟩ := exists_scan_at_mark h
    rw [← List.head?_drop] at hsecond
    obtain ⟨rest, hrest⟩ := List.head?_eq_some_iff.mp hsecond
    refine ⟨words, hruns, ?_, ?_, ?_⟩
    · rw [read, hsplit, hrest, hhidden]
      rfl
    · rw [read, String.toList_ofList, hfront]
      rfl
    · intro hidden
      have htext : (String.ofList (text.toList.take i) ++ "//"
          ++ hidden).toList
          = text.toList.take i ++ '/' :: '/' :: hidden.toList := by
        simp
      rw [read, htext, hhidden]
      rfl
  slash := by
    intro i h hfirst hsecond
    obtain ⟨mark, hmark, his, hsplit, -, -⟩ := split_at_mark h
    obtain rfl : '/' = mark := Option.some.inj (hfirst.symm.trans hmark)
    obtain ⟨words, -, -, -, hrefused⟩ := exists_scan_at_mark h
    rw [← List.head?_drop] at hsecond
    rw [read, hsplit, hrefused _ _ _ his (scan_lone_slash hsecond _)]
    rfl
  feed := by
    intro i h hfirst
    obtain ⟨mark, hmark, his, hsplit, -, -⟩ := split_at_mark h
    obtain rfl : mark = '\n' := by
      have hne : mark ≠ '/' := by
        rintro rfl
        exact hfirst hmark
      simpa [isMark, hne] using his
    obtain ⟨words, -, -, -, hrefused⟩ := exists_scan_at_mark h
    refine ⟨hmark, ?_⟩
    rw [read, hsplit, hrefused _ _ _ his (scan_feed _ _)]
    rfl

/-- A comment can hide a slash, but not one that stands in front of it. -/
example : read 7 "SET=3 // a/b" = .ok [⟨"SET", 1⟩, ⟨"3", 5⟩] ∧
    read 7 "SET=3 / // a" = .error ⟨7, .loneSlash 7⟩ := by
  decide +kernel

end TimingScript.Source.Word
