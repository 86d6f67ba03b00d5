import Plotline.Proofs.Json.Numbers

/-!
# Printed documents read back

A document that is printed on one line and read again comes back with the members of its objects
sorted (`read?_compact`), as long as its numbers can be read and its groups are not nested too deep.

The text is followed through the three steps of reading: the scanner finds the tokens that were
printed (`scans_compact`), the machine on tokens builds the draft of the document (`builds_tokens`),
and the draft resolves to the document (`resolve?_draft`).
-/

namespace Plotline.Json

open Numeral

/-! ## What can be read back -/

mutual

/-- Numbers are finite, and whole ones have at most 64 bits. -/
def Printable : Json → Prop
  | .int n => -2 ^ 63 ≤ n ∧ n < 2 ^ 64
  | .float x => x.isFinite = true
  | .arr items => PrintableItems items
  | .obj members => PrintableMembers members
  | .null | .bool _ | .str _ => True

def PrintableItems : List Json → Prop
  | [] => True
  | j :: js => Printable j ∧ PrintableItems js

def PrintableMembers : List (String × Json) → Prop
  | [] => True
  | (_, j) :: ms => Printable j ∧ PrintableMembers ms

end

mutual

/-- How many groups are nested in each other. -/
def nesting : Json → Nat
  | .arr items => nestingItems items + 1
  | .obj members => nestingMembers members + 1
  | .null | .bool _ | .int _ | .float _ | .str _ => 0

def nestingItems : List Json → Nat
  | [] => 0
  | j :: js => max (nesting j) (nestingItems js)

def nestingMembers : List (String × Json) → Nat
  | [] => 0
  | (_, j) :: ms => max (nesting j) (nestingMembers ms)

end

/-! ## Tokens -/

/-- The code units of a text, one for each character. -/
def units (s : String) : List Nat := s.toList.map Char.toNat

mutual

/-- The tokens of a printed document. -/
def tokens : Json → List Token
  | .str s => [.string (units s)]
  | .arr items => .openList :: ([.comma].intercalate (tokensItems items) ++ [.closeList])
  | .obj members => .openObject :: ([.comma].intercalate (tokensMembers members) ++ [.closeObject])
  | .null => [.word (compact .null).toList]
  | .bool b => [.word (compact (.bool b)).toList]
  | .int n => [.word (compact (.int n)).toList]
  | .float x => [.word (compact (.float x)).toList]

def tokensItems : List Json → List (List Token)
  | [] => []
  | j :: js => tokens j :: tokensItems js

def tokensMembers : List (String × Json) → List (List Token)
  | [] => []
  | (k, j) :: ms => (.string (units k) :: .colon :: tokens j) :: tokensMembers ms

end

namespace Token

/-- The scanner has read these tokens, last one first. The last one may be a word that could go
on. -/
inductive Stands : List Token → Machine → Prop
  | between (ts : List Token) : Stands ts ⟨ts, .between⟩
  | inWord (ts : List Token) (chars : List Char) :
      Stands (.word chars.reverse :: ts) ⟨ts, .inWord chars⟩

/-- The text is scanned as these tokens, whatever stands before it. -/
def Scans (text : List Char) (tokens : List Token) : Prop :=
  ∀ ts, ∃ m, text.foldlM step ⟨ts, .between⟩ = some m ∧ Stands (tokens.reverse ++ ts) m

section

variable {ts tokens tokens' : List Token} {text text' : List Char} {m : Machine} {c : Char}
  {t : Token}

theorem Stands.finish (h : Stands ts m) : finish m = some ts.reverse := by
  cases h <;> rfl

/-- Punctuation ends a word and is a token of its own. -/
theorem Stands.step (h : Stands ts m) (hc : punctuation? c = some t) :
    step m c = some ⟨t :: ts, .between⟩ := by
  have hbegin : ∀ ts, begin ts c = ⟨t :: ts, .between⟩ := by
    intro ts
    have hblank : isBlank c = false := by
      by_contra hblank
      rw [Bool.not_eq_false] at hblank
      simp only [isBlank, Bool.or_eq_true, decide_eq_true_eq] at hblank
      rcases hblank with ((rfl | rfl) | rfl) | rfl <;> cases hc
    have hquote : c ≠ '"' := by
      rintro rfl
      cases hc
    rw [begin, hblank, if_neg (by simp), if_neg hquote, hc]
  cases h with
  | between => exact congrArg some (hbegin ts)
  | inWord ts chars =>
    rw [Token.step, hc]
    simp [hbegin]

theorem scans_nil : Scans [] [] := fun ts => ⟨_, rfl, .between ts⟩

/-- Two texts with punctuation between them. -/
theorem Scans.punctuated (h : Scans text tokens) (hc : punctuation? c = some t)
    (h' : Scans text' tokens') : Scans (text ++ c :: text') (tokens ++ t :: tokens') := by
  intro ts
  obtain ⟨m, hm, hstands⟩ := h ts
  obtain ⟨m', hm', hstands'⟩ := h' (t :: (tokens.reverse ++ ts))
  refine ⟨m', ?_, by simpa using hstands'⟩
  simp [List.foldlM_append, List.foldlM_cons, hm, hstands.step hc, hm']

/-- A group is scanned as its content between its two brackets. -/
theorem Scans.group {l r : Char} {t t' : Token} (h : Scans text tokens)
    (hl : punctuation? l = some t) (hr : punctuation? r = some t') :
    Scans (l :: (text ++ [r])) (t :: (tokens ++ [t'])) :=
  scans_nil.punctuated hl (h.punctuated hr scans_nil)

/-- Texts with commas between them. -/
theorem scans_intercalate {texts : List (List Char)} {parts : List (List Token)}
    (h : List.Forall₂ Scans texts parts) :
    Scans ([','].intercalate texts) ([.comma].intercalate parts) := by
  induction h with
  | nil => exact scans_nil
  | @cons text part texts parts hpart hrest ih =>
    cases hrest with
    | nil => simpa using hpart
    | cons =>
      rw [List.intercalate_cons_cons, List.intercalate_cons_cons, List.append_assoc,
        List.append_assoc]
      exact hpart.punctuated rfl ih

theorem begin_of_isWordChar (h : isWordChar c = true) : begin ts c = ⟨ts, .inWord [c]⟩ := by
  simp only [isWordChar, Bool.not_or, Bool.and_eq_true, Bool.not_eq_true', decide_eq_false_iff_not,
    Option.isSome_eq_false_iff, Option.isNone_iff_eq_none] at h
  rw [begin, h.1.1, if_neg (by simp), if_neg h.1.2, h.2]

theorem step_of_isWordChar {chars : List Char} (h : isWordChar c = true) :
    step ⟨ts, .inWord chars⟩ c = some ⟨ts, .inWord (c :: chars)⟩ := by
  rw [isWordChar, Bool.not_eq_true'] at h
  simp only [step, h, Bool.false_eq_true, if_false]

theorem foldlM_step_word (chars : List Char) (h : ∀ c ∈ text, isWordChar c = true) :
    text.foldlM step ⟨ts, .inWord chars⟩ = some ⟨ts, .inWord (text.reverse ++ chars)⟩ := by
  induction text generalizing chars with
  | nil => rfl
  | cons c text ih =>
    obtain ⟨hc, htext⟩ := List.forall_mem_cons.mp h
    rw [List.foldlM_cons, step_of_isWordChar hc]
    simpa using ih (c :: chars) htext

theorem scans_word {d : Draft} (h : Draft.Reads text d) : Scans text [.word text] := by
  intro ts
  cases text with
  | nil => exact absurd rfl h.ne_nil
  | cons c text =>
    obtain ⟨hc, htext⟩ := List.forall_mem_cons.mp h.isWordChar
    refine ⟨⟨ts, .inWord (text.reverse ++ [c])⟩, ?_, ?_⟩
    · rw [List.foldlM_cons]
      simp [step, begin_of_isWordChar hc, foldlM_step_word [c] htext]
    · simpa using Stands.inWord ts (text.reverse ++ [c])

end

/-! ## Strings -/

theorem toList_hex (n : Nat) : (Text.hex n).toList = Nat.toDigits 16 n := String.toList_ofList

theorem hexDigit?_digitChar : ∀ n < 16, hexDigit? n.digitChar = some n := by decide

/-- A character that is written with its code. -/
theorem foldlM_step_code (ts : List Token) (units : List Nat) {n : Nat} (h : n < 32) :
    ['\\', 'u', '0', '0', (n / 16).digitChar, (n % 16).digitChar].foldlM step
        ⟨ts, .inString units⟩ = some ⟨ts, .inString (n :: units)⟩ := by
  have hzero : hexDigit? '0' = some 0 := rfl
  have hhigh := hexDigit?_digitChar (n / 16) (by omega)
  have hlow := hexDigit?_digitChar (n % 16) (by omega)
  simp [step, hzero, hhigh, hlow, Nat.div_add_mod]

/-- A printed character is read as its code unit. -/
theorem foldlM_step_printedChar (ts : List Token) (units : List Nat) (c : Char) :
    (printedChar c).toList.foldlM step ⟨ts, .inString units⟩ =
      some ⟨ts, .inString (c.toNat :: units)⟩ := by
  unfold printedChar
  split_ifs with h1 h2 h3 h4 h5 h6 h7 h8 h9
  · subst h1
    rfl
  · subst h2
    rfl
  · subst h3
    rfl
  · subst h4
    rfl
  · subst h5
    rfl
  · subst h6
    rfl
  · subst h7
    rfl
  · have htext : ("\\u000" ++ Text.hex c.toNat).toList =
        ['\\', 'u', '0', '0', (c.toNat / 16).digitChar, (c.toNat % 16).digitChar] := by
      rw [String.toList_append, toList_hex, Nat.toDigits_of_lt_base h8,
        Nat.div_eq_of_lt h8, Nat.mod_eq_of_lt h8]
      rfl
    rw [htext]
    exact foldlM_step_code ts units (by omega)
  · have htext : ("\\u00" ++ Text.hex c.toNat).toList =
        ['\\', 'u', '0', '0', (c.toNat / 16).digitChar, (c.toNat % 16).digitChar] := by
      rw [String.toList_append, toList_hex, Nat.toDigits_of_base_le (by decide) (by omega),
        Nat.toDigits_of_lt_base (by omega)]
      rfl
    rw [htext]
    exact foldlM_step_code ts units h9
  · rw [String.toList_singleton]
    simp [step, h1, h2, h9]

theorem foldlM_step_printed (ts : List Token) (units : List Nat) (cs : List Char) :
    (cs.flatMap fun c => (printedChar c).toList).foldlM step ⟨ts, .inString units⟩ =
      some ⟨ts, .inString ((cs.map Char.toNat).reverse ++ units)⟩ := by
  induction cs generalizing units with
  | nil => rfl
  | cons c cs ih =>
    rw [List.flatMap_cons, List.foldlM_append, foldlM_step_printedChar]
    simpa using ih (c.toNat :: units)

theorem scans_printedString (s : String) :
    Scans (printedString s).toList [.string (units s)] := by
  intro ts
  refine ⟨_, ?_, Stands.between _⟩
  have htext : (printedString s).toList =
      '"' :: ((s.toList.flatMap fun c => (printedChar c).toList) ++ ['"']) := by
    simp [printedString, String.toList_join, List.flatMap_map]
  have hopen : step ⟨ts, .between⟩ '"' = some ⟨ts, .inString []⟩ := rfl
  rw [htext, List.foldlM_cons, hopen]
  simp [List.foldlM_append, foldlM_step_printed, step, units]

end Token

open Token in
mutual

/-- The printed text of a document is scanned as its tokens. -/
theorem scans_compact (j : Json) (h : j.Printable) : Scans j.compact.toList j.tokens := by
  cases j with
  | null => exact scans_word Draft.reads_null
  | bool b => exact scans_word (Draft.reads_bool b)
  | int n => exact scans_word (Draft.reads_int h.1 h.2)
  | float x => exact scans_word (Draft.reads_float h)
  | str s => exact scans_printedString s
  | arr items =>
    have htext : (compact (.arr items)).toList =
        '[' :: ([','].intercalate ((compactItems items).map String.toList) ++ [']']) := by
      simp [compact]
    rw [htext]
    exact (scans_intercalate (forall₂_scans_items items h)).group rfl rfl
  | obj members =>
    have htext : (compact (.obj members)).toList =
        '\x7b' :: ([','].intercalate ((compactMembers members).map String.toList) ++ ['\x7d']) := by
      simp [compact]
    rw [htext]
    exact (scans_intercalate (forall₂_scans_members members h)).group rfl rfl

theorem forall₂_scans_items (items : List Json) (h : PrintableItems items) :
    List.Forall₂ Scans ((compactItems items).map String.toList) (tokensItems items) := by
  cases items with
  | nil => exact .nil
  | cons j js => exact .cons (scans_compact j h.1) (forall₂_scans_items js h.2)

theorem forall₂_scans_members (members : List (String × Json)) (h : PrintableMembers members) :
    List.Forall₂ Scans ((compactMembers members).map String.toList) (tokensMembers members) := by
  cases members with
  | nil => exact .nil
  | cons m ms =>
    obtain ⟨k, j⟩ := m
    refine .cons ?_ (forall₂_scans_members ms h.2)
    have htext : (printedString k ++ ":" ++ compact j).toList =
        (printedString k).toList ++ ':' :: (compact j).toList := by
      simp
    rw [htext]
    exact (scans_printedString k).punctuated rfl (scans_compact j h.1)

end

/-! ## Drafts -/

mutual

/-- The draft of a printed document. -/
def draft : Json → Draft
  | .null => .plain .null
  | .bool b => .plain (.bool b)
  | .int n => .number (some (.int n))
  | .float x => .number (some (.float x))
  | .str s => .string (units s)
  | .arr items => .list (draftItems items)
  | .obj members => .object (draftMembers members)

def draftItems : List Json → List Draft
  | [] => []
  | j :: js => draft j :: draftItems js

def draftMembers : List (String × Json) → List (List Nat × Draft)
  | [] => []
  | (k, j) :: ms => (units k, draft j) :: draftMembers ms

end

namespace Draft

/-- The tokens are read as the draft, whatever groups are open. -/
def Builds (tokens : List Token) (d : Draft) : Prop :=
  ∀ frames, tokens.foldlM step ⟨frames, .value⟩ = complete d frames

/-- The tokens are those of a member. -/
def BuildsMember (tokens : List Token) (m : List Nat × Draft) : Prop :=
  ∃ rest, tokens = .string m.1 :: .colon :: rest ∧ Builds rest m.2

section

variable {tokens : List Token} {parts : List (List Token)} {d : Draft} {ds : List Draft}
  {ms : List (List Nat × Draft)}

theorem builds_word {text : List Char} (h : Reads text d) : Builds [.word text] d := by
  intro frames
  simp [step, begin, h.word?]

/-- The first token of a value does not close a list, so a value may be the first item of one. -/
theorem Builds.firstItem (h : Builds tokens d) (frames : List Frame) :
    tokens.foldlM step ⟨frames, .firstItem⟩ = complete d frames := by
  rw [← h frames]
  -- no value is read from no tokens or from a closing bracket
  cases tokens with
  | nil => cases h []
  | cons t rest =>
    cases t with
    | closeList => cases h []
    | _ => rfl

theorem foldlM_step_items (h : List.Forall₂ Builds parts ds) (hne : parts ≠ []) (read : List Draft)
    (frames : List Frame) :
    ([.comma].intercalate parts).foldlM step ⟨.items read :: frames, .value⟩ =
      some ⟨.items (ds.reverse ++ read) :: frames, .next⟩ := by
  induction h generalizing read with
  | nil => exact absurd rfl hne
  | @cons part d parts ds hpart hrest ih =>
    cases hrest with
    | nil => simpa [complete] using hpart (.items read :: frames)
    | cons =>
      rw [List.intercalate_cons_cons]
      simpa [List.foldlM_append, hpart (.items read :: frames), complete, step] using
        ih (by simp) (d :: read)

theorem builds_list (h : List.Forall₂ Builds parts ds) :
    Builds (.openList :: ([.comma].intercalate parts ++ [.closeList])) (.list ds) := by
  intro frames
  have hopen : step ⟨frames, .value⟩ .openList = some ⟨.items [] :: frames, .firstItem⟩ := rfl
  rw [List.foldlM_cons, hopen]
  cases h with
  | nil => simp [step, close]
  | @cons part d parts ds hpart hrest =>
    have hitems := foldlM_step_items (.cons hpart hrest) (by simp) [] frames
    -- where a list may be closed at once, its first item is read as any other
    have hfirst : ([.comma].intercalate (part :: parts)).foldlM step
          ⟨.items [] :: frames, .firstItem⟩ =
        ([.comma].intercalate (part :: parts)).foldlM step ⟨.items [] :: frames, .value⟩ := by
      cases hrest with
      | nil => simpa using (hpart.firstItem _).trans (hpart _).symm
      | cons =>
        rw [List.intercalate_cons_cons, List.append_assoc, List.foldlM_append, List.foldlM_append,
          hpart.firstItem, hpart]
    simp [List.foldlM_append, hfirst, hitems, step, close]

/-- Keys may stand at the beginning of an object and behind commas. -/
def Expect.Key (e : Expect) : Prop := e = .firstKey ∨ e = .key

theorem BuildsMember.foldlM {m : List Nat × Draft} (h : BuildsMember tokens m) {e : Expect}
    (he : e.Key) (read : List (List Nat × Draft)) (frames : List Frame) :
    tokens.foldlM step ⟨.members read :: frames, e⟩ =
      some ⟨.members (m :: read) :: frames, .next⟩ := by
  obtain ⟨rest, rfl, hrest⟩ := h
  have hvalue := hrest (.member read m.1 :: frames)
  rcases he with rfl | rfl <;> simpa [step, complete] using hvalue

theorem foldlM_step_members (h : List.Forall₂ BuildsMember parts ms) (hne : parts ≠ [])
    {e : Expect} (he : e.Key) (read : List (List Nat × Draft)) (frames : List Frame) :
    ([.comma].intercalate parts).foldlM step ⟨.members read :: frames, e⟩ =
      some ⟨.members (ms.reverse ++ read) :: frames, .next⟩ := by
  induction h generalizing read e with
  | nil => exact absurd rfl hne
  | @cons part m parts ms hpart hrest ih =>
    cases hrest with
    | nil => simpa using hpart.foldlM he read frames
    | cons =>
      rw [List.intercalate_cons_cons]
      simpa [List.foldlM_append, hpart.foldlM he read frames, step] using
        ih (by simp) (Or.inr rfl) (m :: read)

theorem builds_object (h : List.Forall₂ BuildsMember parts ms) :
    Builds (.openObject :: ([.comma].intercalate parts ++ [.closeObject])) (.object ms) := by
  intro frames
  have hopen : step ⟨frames, .value⟩ .openObject = some ⟨.members [] :: frames, .firstKey⟩ := rfl
  rw [List.foldlM_cons, hopen]
  cases h with
  | nil => simp [step, close]
  | cons hpart hrest =>
    have hmembers := foldlM_step_members (.cons hpart hrest) (by simp) (Or.inl rfl) [] frames
    simp [List.foldlM_append, hmembers, step, close]

end

end Draft

open Draft in
mutual

/-- The tokens of a document are read as its draft. -/
theorem builds_tokens (j : Json) (h : j.Printable) : Builds j.tokens j.draft := by
  cases j with
  | null => exact builds_word reads_null
  | bool b => exact builds_word (reads_bool b)
  | int n => exact builds_word (reads_int h.1 h.2)
  | float x => exact builds_word (reads_float h)
  | str s =>
    intro frames
    simp [tokens, draft, step, begin]
  | arr items => exact builds_list (forall₂_builds_items items h)
  | obj members => exact builds_object (forall₂_builds_members members h)

theorem forall₂_builds_items (items : List Json) (h : PrintableItems items) :
    List.Forall₂ Builds (tokensItems items) (draftItems items) := by
  cases items with
  | nil => exact .nil
  | cons j js => exact .cons (builds_tokens j h.1) (forall₂_builds_items js h.2)

theorem forall₂_builds_members (members : List (String × Json)) (h : PrintableMembers members) :
    List.Forall₂ BuildsMember (tokensMembers members) (draftMembers members) := by
  cases members with
  | nil => exact .nil
  | cons m ms =>
    obtain ⟨k, j⟩ := m
    exact .cons ⟨tokens j, rfl, builds_tokens j h.1⟩ (forall₂_builds_members ms h.2)

end

/-! ## Documents -/

/-- Code units outside of surrogate pairs are characters. -/
theorem characters?_cons {u : Nat} (hu : ¬ (0xD800 ≤ u ∧ u < 0xE000)) (rest : List Nat) :
    Token.characters? (u :: rest) = (Token.characters? rest).map (Char.ofNat u :: ·) := by
  cases rest with
  | nil => simp [Token.characters?, hu]
  | cons v rest =>
    rw [Token.characters?, if_neg (by omega), if_neg (by omega)]

theorem not_surrogate (c : Char) : ¬ (0xD800 ≤ c.toNat ∧ c.toNat < 0xE000) := by
  have hvalid : c.toNat < 0xD800 ∨ 0xDFFF < c.toNat ∧ c.toNat < 0x110000 := c.valid
  omega

theorem characters?_map_toNat (cs : List Char) :
    Token.characters? (cs.map Char.toNat) = some cs := by
  induction cs with
  | nil => rfl
  | cons c cs ih =>
    rw [List.map_cons, characters?_cons (not_surrogate c), ih, Option.map_some, Char.ofNat_toNat]

theorem text?_units (s : String) : Token.text? (units s) = some s := by
  rw [Token.text?, units, characters?_map_toNat, Option.map_some, String.ofList_toList]

open Draft in
mutual

/-- The draft of a document is the document with its members sorted. -/
theorem resolve?_draft (j : Json) (depth : Nat) (h : j.nesting ≤ depth) :
    resolve? depth j.draft = some j.sorted := by
  cases j with
  | null | bool | int | float => rfl
  | str s => rw [draft, resolve?, text?_units, sorted, Option.map_some]
  | arr items =>
    rw [nesting] at h
    rw [draft, resolve?, if_neg (by omega), resolveItems?_draft items _ (by omega), sorted,
      Option.map_some]
  | obj members =>
    rw [nesting] at h
    rw [draft, resolve?, if_neg (by omega), resolveMembers?_draft members _ (by omega), sorted,
      Option.map_some]

theorem resolveItems?_draft (items : List Json) (depth : Nat) (h : nestingItems items ≤ depth) :
    resolveItems? depth (draftItems items) = some (sortedItems items) := by
  cases items with
  | nil => rfl
  | cons j js =>
    rw [nestingItems] at h
    simp [draftItems, resolveItems?, sortedItems, resolve?_draft j depth (by omega),
      resolveItems?_draft js depth (by omega)]

theorem resolveMembers?_draft (members : List (String × Json)) (depth : Nat)
    (h : nestingMembers members ≤ depth) :
    resolveMembers? depth (draftMembers members) = some (sortedMembers members) := by
  cases members with
  | nil => rfl
  | cons m ms =>
    obtain ⟨k, j⟩ := m
    rw [nestingMembers] at h
    simp [draftMembers, resolveMembers?, sortedMembers, text?_units,
      resolve?_draft j depth (by omega),
      resolveMembers?_draft ms depth (by omega)]

end

/-! ## Reading back -/

/-- A printed document is read back, with the members of its objects sorted. -/
theorem read?_compact {j : Json} (h : j.Printable) (hnesting : j.nesting ≤ nestingLimit) :
    read? j.compact = some j.sorted := by
  obtain ⟨m, hm, hstands⟩ := scans_compact j h []
  have hscan : Token.scan j.compact.toList = some j.tokens := by
    rw [Token.scan, hm, Option.bind_some, hstands.finish]
    simp
  have hbuilds : j.tokens.foldlM Draft.step ⟨[], .value⟩ = some ⟨[], .finished j.draft⟩ :=
    builds_tokens j h []
  have hdraft : Draft.read? j.compact = some j.draft := by
    simp [Draft.read?, hscan, hbuilds]
  rw [read?, readWithin?, hdraft]
  exact resolve?_draft j _ hnesting

end Plotline.Json
