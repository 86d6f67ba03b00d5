import Mathlib.Data.List.DropRight
import Plotline.Text.Lines

/-!
# Lines cut at byte positions

A text keeps the byte positions at which its lines begin, and a line is cut from there to the byte
in front of the next line. The pieces between the newlines of a text are the measure for that: the
line with a given number is the piece with that number, without the carriage returns at its end, and
both positions of the cut are between characters (`lines_of_text`).

The two sides meet in a view of the text around one line (`LineAt`): what is in front of the line,
the line, and what is behind it. There is such a view for each line (`exists_lineAt`), found by
going from a line to the next one (`LineAt.next`), and a view tells the piece as well as the cut.
-/

namespace Plotline.Text

/-! ## The end of a line -/

theorem toList_dropEndWhile (s : String) (p : Char → Bool) :
    (s.dropEndWhile p).copy.toList = s.toList.rdropWhile p := by
  have hsplit : (s.dropEndWhile p).copy ++ (s.takeEndWhile p).copy = s :=
    String.dropEndWhile_append_takeEndWhile
  have hend : (s.takeEndWhile p).copy.toList.all p = true := by
    rw [← String.Slice.revAll_bool_eq]
    exact String.revAll_takeEndWhile
  have hstop : (s.dropEndWhile p).copy.toList.getLast?.any p = false := by
    rw [← String.Slice.endsWith_bool_eq_getLast?]
    exact String.endsWith_dropEndWhile
  conv_rhs => rw [← hsplit]
  rw [String.toList_append, List.rdropWhile, List.reverse_append,
    List.dropWhile_append_of_pos (by simpa using hend)]
  refine (List.rdropWhile_eq_self_iff.mpr fun hne => ?_).symm
  rw [List.getLast?_eq_some_getLast hne] at hstop
  simpa using hstop

theorem dropEndWhile_return (s : String) :
    (s.dropEndWhile '\r').copy = String.ofList (s.toList.rdropWhile (· = '\r')) := by
  rw [String.dropEndWhile_eq_dropEndWhile_toSlice,
    String.Slice.dropEndWhile_char_eq_dropEndWhile_beq]
  rw [← String.ofList_toList (s := String.Slice.copy _)]
  exact congrArg String.ofList (toList_dropEndWhile s (· == '\r'))

/-! ## Positions behind characters -/

/-- The byte position behind characters with which a text begins. -/
def behind (cs : List Char) : String.Pos.Raw := (String.ofList cs).rawEndPos

theorem behind_toList (text : String) : behind text.toList = text.rawEndPos := by
  rw [behind, String.ofList_toList]

theorem behind_concat_newline (cs : List Char) : behind (cs ++ ['\n']) = (behind cs).inc := by
  have hnewline : (String.ofList ['\n']).utf8ByteSize = 1 := rfl
  rw [behind, behind, String.Pos.Raw.ext_iff, String.Pos.Raw.byteIdx_inc, String.byteIdx_rawEndPos,
    String.byteIdx_rawEndPos, String.ofList_append, String.utf8ByteSize_append, hnewline]

theorem behind_le_append (xs ys : List Char) : behind xs ≤ behind (xs ++ ys) := by
  rw [behind, behind, String.Pos.Raw.le_iff, String.byteIdx_rawEndPos, String.byteIdx_rawEndPos,
    String.ofList_append, String.utf8ByteSize_append]
  exact Nat.le_add_right _ _

theorem isValid_behind {text : String} {xs ys : List Char} (h : text.toList = xs ++ ys) :
    (behind xs).IsValid text := by
  rw [String.Pos.Raw.isValid_iff_exists_append]
  refine ⟨String.ofList xs, String.ofList ys, ?_, rfl⟩
  rw [← String.ofList_append, ← h, String.ofList_toList]

theorem pos?_of_isValid {text : String} {p : String.Pos.Raw} (h : p.IsValid text) :
    text.pos? p = some (text.pos p h) := by
  have hslice : p.isValidForSlice text.toSlice = true :=
    String.Pos.Raw.isValidForSlice_eq_true_iff.mpr h.toSlice
  simp [String.pos?, String.Slice.pos?, hslice, String.pos]

/-- A part of a text is what is cut out between the positions around it. -/
theorem slice?_behind {text : String} {before part after : List Char}
    (h : text.toList = before ++ part ++ after) :
    slice? text (behind before) (behind (before ++ part)) = some (String.ofList part) := by
  have hstart : (behind before).IsValid text :=
    isValid_behind (h.trans (List.append_assoc before part after))
  have hstop : (behind (before ++ part)).IsValid text := isValid_behind h
  have htext : text = String.ofList before ++ String.ofList part ++ String.ofList after := by
    rw [← String.ofList_append, ← String.ofList_append, ← h, String.ofList_toList]
  obtain ⟨hle, hcopy⟩ : ∃ hle, (text.slice (text.pos _ hstart) (text.pos _ hstop) hle).copy =
      String.ofList part := by
    rw [String.copy_slice_eq_iff_splits]
    refine ⟨String.ofList before, String.ofList after, ⟨?_, rfl⟩, ⟨htext, ?_⟩⟩
    · rw [htext, String.append_assoc]
    · rw [String.offset_pos, behind, String.ofList_append]
  rw [slice?, pos?_of_isValid hstart, pos?_of_isValid hstop]
  simp [String.slice?, hle, hcopy]

/-! ## Positions of newlines -/

theorem newlinesFrom_append (p : String.Pos.Raw) (xs ys : List Char) :
    newlinesFrom p (xs ++ ys) = newlinesFrom p xs ++ newlinesFrom (p + String.ofList xs) ys := by
  induction xs generalizing p with
  | nil =>
    have hstay : p + String.ofList [] = p := String.Pos.Raw.ext rfl
    rw [hstay]
    rfl
  | cons c xs ih =>
    have hmove : p + c + String.ofList xs = p + String.ofList (c :: xs) := by
      rw [String.Pos.Raw.ext_iff, String.ofList_cons]
      simp only [String.Pos.Raw.byteIdx_add_string, String.Pos.Raw.byteIdx_add_char,
        String.utf8ByteSize_append, String.utf8ByteSize_singleton, Nat.add_assoc]
    by_cases hc : c = '\n'
    · rw [List.cons_append, newlinesFrom, newlinesFrom, if_pos hc, if_pos hc, ih, hmove,
        List.cons_append]
    · rw [List.cons_append, newlinesFrom, newlinesFrom, if_neg hc, if_neg hc, ih, hmove]

theorem length_newlinesFrom (p : String.Pos.Raw) (cs : List Char) :
    (newlinesFrom p cs).length = cs.count '\n' := by
  induction cs generalizing p with
  | nil => rfl
  | cons c cs ih =>
    by_cases hc : c = '\n'
    · simp [newlinesFrom, hc, ih]
    · simp [newlinesFrom, hc, ih]

/-- A newline stands in the list of newlines behind those in front of it. -/
theorem getElem?_newlinesFrom (before after : List Char) :
    (newlinesFrom 0 (before ++ '\n' :: after))[before.count '\n']? = some (behind before) := by
  have hpos : (0 : String.Pos.Raw) + String.ofList before = behind before :=
    String.Pos.Raw.ext (Nat.zero_add _)
  rw [newlinesFrom_append, hpos, List.getElem?_append_right (by rw [length_newlinesFrom]),
    length_newlinesFrom, Nat.sub_self, newlinesFrom, if_pos rfl, List.getElem?_cons_zero]

theorem lineCount_eq (text : String) : lineCount text = text.toList.count '\n' + 1 := by
  rw [lineCount, lineStarts, List.length_cons, List.length_map, length_newlinesFrom]

/-- The line behind a newline begins there. -/
theorem getElem?_lineStarts {text : String} {before after : List Char}
    (h : text.toList = before ++ '\n' :: after) :
    (lineStarts text)[before.count '\n' + 1]? = some (behind (before ++ ['\n'])) := by
  rw [lineStarts, List.getElem?_cons_succ, List.getElem?_map, h, getElem?_newlinesFrom,
    behind_concat_newline, Option.map_some]

/-! ## The text around a line -/

/-- `line` is the line with the given index, counted from zero, of `text`, with what is in front of
it and what is behind it. -/
structure LineAt (text : List Char) (index : Nat) (before line after : List Char) : Prop where
  eq_append : text = before ++ line ++ after
  newline_notMem : '\n' ∉ line
  count_before : before.count '\n' = index
  before_eq : before = [] ∨ ∃ cs, before = cs ++ ['\n']
  after_eq : after = [] ∨ ∃ cs, after = '\n' :: cs

namespace LineAt

variable {text before line after : List Char} {index : Nat}

theorem count_before_append (h : LineAt text index before line after) :
    (before ++ line).count '\n' = index := by
  rw [List.count_append, h.count_before, List.count_eq_zero_of_not_mem h.newline_notMem,
    Nat.add_zero]

/-- The first line has nothing in front of it. Every other line has a newline there, and up to this
one there are as many newlines as its index says. -/
theorem first_or_behind_newline (h : LineAt text index before line after) :
    (index = 0 ∧ before = [] ∧ text = line ++ after) ∨
      ∃ cs, index = cs.count '\n' + 1 ∧ before = cs ++ ['\n'] ∧
        text = cs ++ '\n' :: (line ++ after) := by
  have htext := h.eq_append
  have hindex := h.count_before
  obtain rfl | ⟨cs, rfl⟩ := h.before_eq
  · exact .inl ⟨hindex.symm, rfl, htext⟩
  · refine .inr ⟨cs, ?_, rfl, ?_⟩
    · rw [← hindex, List.count_append, List.count_singleton_self]
    · rw [htext, List.append_assoc, List.append_assoc, List.singleton_append]

end LineAt

/-- The characters up to the first newline, and the rest. -/
theorem exists_upToNewline (cs : List Char) :
    ∃ line after, cs = line ++ after ∧ '\n' ∉ line ∧ (after = [] ∨ ∃ ds, after = '\n' :: ds) := by
  refine ⟨cs.takeWhile (· ≠ '\n'), cs.dropWhile (· ≠ '\n'), ?_, ?_, ?_⟩
  · rw [List.takeWhile_append_dropWhile]
  · intro hmem
    simpa using List.mem_takeWhile_imp hmem
  · cases hrest : cs.dropWhile (· ≠ '\n') with
    | nil => exact .inl rfl
    | cons c ds =>
      have hc := List.head?_dropWhile_not (· ≠ '\n') cs
      rw [hrest] at hc
      have : c = '\n' := by simpa using hc
      exact .inr ⟨ds, by rw [this]⟩

theorem exists_lineAt_zero (text : List Char) : ∃ line after, LineAt text 0 [] line after := by
  obtain ⟨line, after, happend, hline, hafter⟩ := exists_upToNewline text
  exact ⟨line, after, happend, hline, rfl, .inl rfl, hafter⟩

/-- From a line with a newline behind it to the next line. -/
theorem LineAt.next {text before line after : List Char} {index : Nat}
    (h : LineAt text index before line ('\n' :: after)) :
    ∃ line' after', LineAt text (index + 1) (before ++ line ++ ['\n']) line' after' := by
  obtain ⟨line', after', happend, hline', hafter'⟩ := exists_upToNewline after
  refine ⟨line', after', ?_, hline', ?_, .inr ⟨_, rfl⟩, hafter'⟩
  · simp [h.eq_append, happend]
  · rw [List.count_append, h.count_before_append, List.count_singleton_self]

/-- A text has a line for each of its newlines, and one more. -/
theorem exists_lineAt {text : List Char} {index : Nat} (h : index ≤ text.count '\n') :
    ∃ before line after, LineAt text index before line after := by
  induction index with
  | zero => exact ⟨[], exists_lineAt_zero text⟩
  | succ index ih =>
    obtain ⟨before, line, after, hat⟩ := ih (Nat.le_of_succ_le h)
    obtain rfl | ⟨rest, rfl⟩ := hat.after_eq
    · -- all newlines are in front of a line with nothing behind it
      have hcount : text.count '\n' = index := by
        rw [hat.eq_append, List.append_nil, hat.count_before_append]
      omega
    · exact ⟨before ++ line ++ ['\n'], hat.next⟩

/-! ## Pieces between newlines -/

theorem length_splitOn_newline (cs : List Char) :
    (cs.splitOn '\n').length = cs.count '\n' + 1 := by
  induction cs with
  | nil => rfl
  | cons c cs ih =>
    rw [List.splitOn_cons_eq_if_modifyHead]
    by_cases hc : c = '\n'
    · simp [hc, ih]
    · simp [hc, ih]

namespace LineAt

variable {text before line after : List Char} {index : Nat}

/-- Behind the text in front of a line, its line is the first piece. -/
theorem splitOn_rest (h : LineAt text index before line after) :
    ((line ++ after).splitOn '\n')[0]? = some line := by
  obtain rfl | ⟨rest, rfl⟩ := h.after_eq
  · rw [List.append_nil, List.splitOn_eq_singleton h.newline_notMem, List.getElem?_cons_zero]
  · rw [List.splitOn_append_cons_self_of_not_mem h.newline_notMem, List.getElem?_cons_zero]

theorem getElem?_splitOn (h : LineAt text index before line after) :
    (text.splitOn '\n')[index]? = some line := by
  obtain ⟨rfl, -, rfl⟩ | ⟨cs, hindex, -, rfl⟩ := h.first_or_behind_newline
  · exact h.splitOn_rest
  · rw [hindex, List.splitOn_append_cons_self, ← length_splitOn_newline,
      List.getElem?_append_right (Nat.le_refl _), Nat.sub_self, h.splitOn_rest]

end LineAt

/-! ## The cut -/

namespace LineAt

variable {text : String} {before line after : List Char} {index : Nat}

theorem getElem?_lineStarts (h : LineAt text.toList index before line after) :
    (lineStarts text)[index]? = some (behind before) := by
  obtain ⟨rfl, rfl, -⟩ | ⟨cs, hindex, rfl, htext⟩ := h.first_or_behind_newline
  · rfl
  · rw [hindex, Text.getElem?_lineStarts htext]

/-- The next line, or the end of the text, tells where a line ends. -/
theorem stop_eq (h : LineAt text.toList index before line after) :
    (lineStarts text)[index + 1]?.elim text.rawEndPos (·.dec) = behind (before ++ line) := by
  have hcount := h.count_before_append
  obtain hafter | ⟨rest, hafter⟩ := h.after_eq
  · -- nothing is behind the last line, and no start is recorded behind its own
    have htext : text.toList = before ++ line := by
      rw [h.eq_append, hafter, List.append_nil]
    have hlast : (lineStarts text)[index + 1]? = none := by
      rw [List.getElem?_eq_none_iff, ← lineCount, lineCount_eq, htext, hcount]
    rw [hlast, Option.elim_none, ← behind_toList, htext]
  · have htext : text.toList = before ++ line ++ '\n' :: rest := by
      rw [h.eq_append, hafter]
    rw [← hcount, Text.getElem?_lineStarts htext, Option.elim_some, behind_concat_newline]
    -- a newline is one byte, so one byte back from the next line is in front of it
    exact String.Pos.Raw.ext rfl

theorem lineBounds?_eq (h : LineAt text.toList index before line after) {number : UInt32}
    (hnumber : number.toNat = index + 1) :
    lineBounds? text number = some (behind before, behind (before ++ line)) := by
  simp only [lineBounds?, hnumber]
  rw [h.getElem?_lineStarts, h.stop_eq]
  rfl

theorem line?_eq (h : LineAt text.toList index before line after) {number : UInt32}
    (hnumber : number.toNat = index + 1) :
    line? text number = some (String.ofList (line.rdropWhile (· = '\r'))) := by
  have hslice := slice?_behind h.eq_append
  simp only [line?, h.lineBounds?_eq hnumber, Option.bind_eq_bind, Option.bind_some, hslice,
    dropEndWhile_return, String.toList_ofList]
  rfl

theorem isValid_start (h : LineAt text.toList index before line after) :
    (behind before).IsValid text :=
  isValid_behind (h.eq_append.trans (List.append_assoc before line after))

theorem isValid_stop (h : LineAt text.toList index before line after) :
    (behind (before ++ line)).IsValid text :=
  isValid_behind h.eq_append

end LineAt

theorem lineBounds?_eq_none {text : String} {number : UInt32}
    (h : ¬ (1 ≤ number.toNat ∧ number.toNat ≤ lineCount text)) : lineBounds? text number = none := by
  unfold lineBounds?
  cases hnumber : number.toNat with
  | zero => rfl
  | succ index =>
    have hpast : (lineStarts text)[index]? = none := by
      rw [List.getElem?_eq_none_iff, ← lineCount]
      omega
    simp [hpast]

theorem line?_eq_none {text : String} {number : UInt32}
    (h : ¬ (1 ≤ number.toNat ∧ number.toNat ≤ lineCount text)) : line? text number = none := by
  rw [line?, lineBounds?_eq_none h]
  rfl

/-- A number that a text has a line for, with the text around that line. -/
theorem exists_lineAt_number {text : String} {number : UInt32}
    (h : 1 ≤ number.toNat ∧ number.toNat ≤ lineCount text) :
    ∃ index before line after, number.toNat = index + 1 ∧
      LineAt text.toList index before line after := by
  rw [lineCount_eq] at h
  have hindex : number.toNat - 1 ≤ text.toList.count '\n' := by omega
  obtain ⟨before, line, after, hat⟩ := exists_lineAt hindex
  exact ⟨number.toNat - 1, before, line, after, by omega, hat⟩

theorem isSome_line?_iff (text : String) (number : UInt32) :
    (line? text number).isSome ↔ 1 ≤ number.toNat ∧ number.toNat ≤ lineCount text := by
  constructor
  · intro hsome
    by_contra hnumber
    rw [line?_eq_none hnumber] at hsome
    exact absurd hsome (by simp)
  · intro hnumber
    obtain ⟨index, before, line, after, hindex, hat⟩ := exists_lineAt_number hnumber
    rw [hat.line?_eq hindex, Option.isSome_some]

/-- The line with a given number is the piece with that number, less the carriage returns at its
end. -/
theorem line?_eq_piece (text : String) (number : UInt32) :
    line? text number =
      if number = 0 then none
      else (text.toList.splitOn '\n')[number.toNat - 1]?.map fun piece =>
        String.ofList (piece.rdropWhile (· = '\r')) := by
  by_cases hzero : number = 0
  · rw [if_pos hzero, hzero]
    rfl
  rw [if_neg hzero]
  have hpos : number.toNat ≠ 0 := fun h => hzero (UInt32.toNat_inj.mp h)
  by_cases hnumber : 1 ≤ number.toNat ∧ number.toNat ≤ lineCount text
  · obtain ⟨index, before, line, after, hindex, hat⟩ := exists_lineAt_number hnumber
    rw [hat.line?_eq hindex, hindex, Nat.add_sub_cancel, hat.getElem?_splitOn, Option.map_some]
  · have hpast : (text.toList.splitOn '\n')[number.toNat - 1]? = none := by
      rw [List.getElem?_eq_none_iff, length_splitOn_newline, ← lineCount_eq]
      omega
    rw [line?_eq_none hnumber, hpast, Option.map_none]

theorem isValid_of_mem_lineStarts {text : String} {start : String.Pos.Raw}
    (h : start ∈ lineStarts text) : start.IsValid text := by
  obtain ⟨index, hindex⟩ := List.mem_iff_getElem?.mp h
  have hlt : index < lineCount text := (List.getElem?_eq_some_iff.mp hindex).1
  rw [lineCount_eq] at hlt
  obtain ⟨before, line, after, hat⟩ := exists_lineAt (Nat.le_of_lt_succ hlt)
  rw [hat.getElem?_lineStarts, Option.some_inj] at hindex
  exact hindex ▸ hat.isValid_start

theorem isValid_of_lineBounds? {text : String} {number : UInt32} {start stop : String.Pos.Raw}
    (h : lineBounds? text number = some (start, stop)) :
    start.IsValid text ∧ stop.IsValid text ∧ start ≤ stop := by
  by_cases hnumber : 1 ≤ number.toNat ∧ number.toNat ≤ lineCount text
  · obtain ⟨index, before, line, after, hindex, hat⟩ := exists_lineAt_number hnumber
    rw [hat.lineBounds?_eq hindex] at h
    cases h
    exact ⟨hat.isValid_start, hat.isValid_stop, behind_le_append before line⟩
  · rw [lineBounds?_eq_none hnumber] at h
    cases h

/-- A text has one line more than it has newlines. It has the lines with the numbers from one to that
many, and each is the piece of the text with its number, without the carriage returns at the end. No
recorded start of a line is inside a character, nor is an end of a cut. -/
theorem lines_of_text (text : String) (number : UInt32) :
    lineCount text = text.toList.count '\n' + 1 ∧
      ((line? text number).isSome ↔ 1 ≤ number.toNat ∧ number.toNat ≤ lineCount text) ∧
      line? text number =
        (if number = 0 then none
        else (text.toList.splitOn '\n')[number.toNat - 1]?.map fun piece =>
          String.ofList (piece.rdropWhile (· = '\r'))) ∧
      (∀ start ∈ lineStarts text, start.IsValid text) ∧
      ∀ start stop, lineBounds? text number = some (start, stop) →
        start.IsValid text ∧ stop.IsValid text ∧ start ≤ stop := by
  refine ⟨lineCount_eq text, isSome_line?_iff text number, line?_eq_piece text number, ?_, ?_⟩
  · intro start hstart
    exact isValid_of_mem_lineStarts hstart
  · intro start stop hbounds
    exact isValid_of_lineBounds? hbounds

/-- A second line behind a character of two bytes, with one of three bytes in it. -/
theorem lines_of_text_accented :
    ⟨4⟩ ∈ lineStarts "é\r\n日\r\r\n" ∧
      lineBounds? "é\r\n日\r\r\n" 2 = some (⟨4⟩, ⟨9⟩) ∧
      lineCount "é\r\n日\r\r\n" = 3 ∧
      line? "é\r\n日\r\r\n" 2 = some "日" ∧
      (⟨4⟩ : String.Pos.Raw).IsValid "é\r\n日\r\r\n" ∧
      (⟨9⟩ : String.Pos.Raw).IsValid "é\r\n日\r\r\n" := by
  obtain ⟨hcount, _, hline, hstarts, hbounds⟩ := lines_of_text "é\r\n日\r\r\n" 2
  have hmem : ⟨4⟩ ∈ lineStarts "é\r\n日\r\r\n" := by decide
  have hcut : lineBounds? "é\r\n日\r\r\n" 2 = some (⟨4⟩, ⟨9⟩) := by decide
  exact ⟨hmem, hcut, hcount.trans (by decide), hline.trans (by decide), hstarts _ hmem,
    (hbounds _ _ hcut).2.1⟩

end Plotline.Text
