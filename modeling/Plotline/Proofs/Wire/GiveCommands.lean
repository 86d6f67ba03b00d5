import Plotline.Wire.Package

/-!
# Strings in give commands

The command that gives a player the item of a template has two texts between single quotes, the data
of the template and the name of the item. A reader takes the character behind a backslash as it is
and stops at the first other quote (`unquoted?`). Whatever name and code a template has, the reader
stops at the quotes that the command puts behind the two texts and has then read the two texts
(`giveCommand_unquotes`).

Texts are escaped in two passes, first the backslashes and then the quotes (`guarded`). In the other
order the backslash in front of a quote would be doubled, and the quote would end the text.
-/

namespace Plotline

/-! ## Reading -/

/-- Reads a text behind its opening quote: the text and what follows its closing quote. -/
def unquoted? : List Char → Option (List Char × List Char)
  | [] => none
  | '\'' :: rest => some ([], rest)
  | '\\' :: c :: rest => (unquoted? rest).map fun r => (c :: r.1, r.2)
  | c :: rest => if c = '\\' then none else (unquoted? rest).map fun r => (c :: r.1, r.2)

/-- The text with a backslash in front of each `c`. -/
def guarded (c : Char) (text : List Char) : List Char :=
  text.flatMap fun x => if x = c then ['\\', x] else [x]

/-- The text between the quotes of a command. -/
def escapedText (text : String) : List Char := guarded '\'' (guarded '\\' text.toList)

/-! ## Escaping -/

/-- The two passes do together what is done to each character. -/
theorem guarded_guarded (text : List Char) :
    guarded '\'' (guarded '\\' text) = text.flatMap escapedChar := by
  unfold guarded
  -- both passes go through the text character by character, so they can be compared at each of them
  rw [List.flatMap_assoc]
  congr 1
  funext c
  by_cases hslash : c = '\\'
  · subst hslash
    rfl
  · by_cases hquote : c = '\''
    · subst hquote
      rfl
    · simp [escapedChar, hslash, hquote]

theorem unquoted?_escapedChar (c : Char) (text : List Char) :
    unquoted? (escapedChar c ++ text) = (unquoted? text).map fun r => (c :: r.1, r.2) := by
  by_cases hspecial : c = '\\' ∨ c = '\''
  · rw [escapedChar, if_pos hspecial]
    simp [unquoted?]
  · obtain ⟨hslash, hquote⟩ := not_or.mp hspecial
    rw [escapedChar, if_neg hspecial]
    simp [unquoted?, hslash]

/-- An escaped text is read back, up to the quote behind it. -/
theorem unquoted?_escapedText (text : String) (rest : List Char) :
    unquoted? (escapedText text ++ '\'' :: rest) = some (text.toList, rest) := by
  rw [escapedText, guarded_guarded]
  induction text.toList with
  | nil => simp [unquoted?]
  | cons c cs ih =>
    rw [List.flatMap_cons, List.append_assoc, unquoted?_escapedChar, ih, Option.map_some]

theorem toList_singleQuoted (text : String) :
    (singleQuoted text).toList = '\'' :: (escapedText text ++ ['\'']) := by
  rw [singleQuoted, escapedText, guarded_guarded]
  simp

/-! ## Commands -/

namespace GiveCommand

/-- What stands in front of the first opening quote. -/
def front : String :=
  "/give @p ender_chest\x7bPublicBukkitValues:\x7b\"hypercube:codetemplatedata\":"

/-- What stands between the two quoted texts. -/
def middle : String := "\x7d,display:\x7bName:"

/-- What stands behind the last quote. -/
def back : String := "\x7d\x7d 1"

end GiveCommand

open GiveCommand

/-- The command from behind the quote that opens the name of the item. -/
def TemplateCode.fromDisplay (t : TemplateCode) : List Char :=
  escapedText t.display.compact ++ '\'' :: back.toList

/-- The command from behind the quote that opens the data of the template. -/
def TemplateCode.fromData (t : TemplateCode) : List Char :=
  escapedText t.data.compact ++ '\'' :: (middle.toList ++ '\'' :: t.fromDisplay)

theorem TemplateCode.toList_giveCommand (t : TemplateCode) :
    t.giveCommand.toList = front.toList ++ '\'' :: t.fromData := by
  have hparts : t.giveCommand =
      front ++ singleQuoted t.data.compact ++ middle ++ singleQuoted t.display.compact ++ back := rfl
  rw [hparts]
  simp only [String.toList_append, toList_singleQuoted, List.append_assoc, List.cons_append,
    List.nil_append, fromData, fromDisplay]

/-- From each of the two opening quotes of a give command, a reader gets to the quote that the command
has behind the text, and has then read the text of the template's data and the text of the item's
name. -/
theorem giveCommand_unquotes (t : TemplateCode) :
    t.giveCommand.toList = front.toList ++ '\'' :: t.fromData ∧
      unquoted? t.fromData =
        some (t.data.compact.toList, middle.toList ++ '\'' :: t.fromDisplay) ∧
      unquoted? t.fromDisplay = some (t.display.compact.toList, back.toList) := by
  refine ⟨t.toList_giveCommand, ?_, ?_⟩
  · exact unquoted?_escapedText t.data.compact _
  · exact unquoted?_escapedText t.display.compact _

end Plotline
