import PackageIndex.Proofs.Sections
import PackageIndex.Source.Module

/-!
# Tokens of indexes

The lexer moves a scan over a source step by step.  `Scan.Leads` says that some steps lead from one
scan to another, and that they are not more than the lexer allows itself for the characters that
they take.  There is one lemma for each kind of step that an index needs, under the condition on the
next character under which the step is made, and from them one for each kind of line.

`tokens_render` puts the lines together: if all names in an index are identifiers, its text is
divided into the tokens that one expects.
-/

namespace PackageIndex.Source

namespace Scan

/-- A bound on the steps that a scan needs: two for each character, one to start a line and one to
take the character. -/
def cost (s : Scan) : ℕ := 2 * s.rest.length + if s.lineStart then 1 else 0

/-- The lexer comes from one scan to another, within the bound on its steps. -/
def Leads (s t : Scan) : Prop :=
  ∃ n, n + t.cost ≤ s.cost ∧ ∀ fuel, s.run (fuel + n) = t.run fuel

/-- The scan inside of a line and outside of blocks. -/
def inside (brackets : List Char) (rest : List Char) (tokens : List Token) : Scan :=
  ⟨rest, tokens, [], brackets, false⟩

/-- The scan at the start of a line, outside of blocks. -/
def atLine (brackets : List Char) (rest : List Char) (tokens : List Token) : Scan :=
  ⟨rest, tokens, [], brackets, true⟩

namespace Leads

variable {s t u : Scan}

/-- No step is needed to stay. -/
lemma refl (s : Scan) : s.Leads s := ⟨0, by omega, fun _ => rfl⟩

/-- Steps may be put together. -/
lemma trans (h : s.Leads t) (h' : t.Leads u) : s.Leads u := by
  obtain ⟨n, hn, hrun⟩ := h
  obtain ⟨m, hm, hrun'⟩ := h'
  refine ⟨m + n, by omega, fun fuel => ?_⟩
  rw [← Nat.add_assoc, hrun, hrun']

/-- A step that takes a character, or starts a line, is within the bound. -/
lemma of_step (h : s.step = some t) (hrest : s.rest ≠ []) (hcost : t.cost < s.cost) :
    s.Leads t := by
  refine ⟨1, by omega, fun fuel => ?_⟩
  rw [run, if_neg (by simpa using hrest), h]
  rfl

/-- A scan that leads to the end of the source is finished there. -/
lemma run_eq (h : s.Leads t) (hrest : t.rest = []) {fuel : ℕ} (hfuel : s.cost < fuel) :
    s.run fuel = t.finish := by
  obtain ⟨n, hn, hrun⟩ := h
  obtain ⟨k, rfl⟩ : ∃ k, fuel = k + 1 + n := ⟨fuel - n - 1, by omega⟩
  rw [hrun, run, if_pos (by simpa using hrest)]

end Leads

end Scan

/-! ## Characters of words -/

/-- What goes on with an identifier goes on with a word. -/
lemma isWordChar_of_isIdentifierChar {c : Char} (h : Unicode.isIdentifierChar c = true) :
    isWordChar c = true := by
  unfold Unicode.isIdentifierChar at h
  unfold isWordChar
  split_ifs at h with hascii
  · rw [h, Bool.or_true]
  · rw [decide_eq_true (by omega), Bool.true_or]

/-- What begins an identifier begins a word. -/
lemma isWordStart_of_isIdentifierStart {c : Char} (h : Unicode.isIdentifierStart c = true) :
    isWordStart c = true := by
  unfold Unicode.isIdentifierStart at h
  unfold isWordStart
  split_ifs at h with hascii
  · rw [h, Bool.or_true]
  · rw [decide_eq_true (by omega), Bool.true_or]

/-- What begins a word may go on with one. -/
lemma isWordChar_of_isWordStart {c : Char} (h : isWordStart c = true) : isWordChar c = true := by
  unfold isWordStart Unicode.isAsciiNameStart at h
  unfold isWordChar Unicode.isAsciiNameChar Char.isAlphanum
  simp only [Bool.or_eq_true] at h ⊢
  tauto

/-- An identifier is a word: it begins as one, and all of it belongs to it. -/
lemma isWord_of_isIdentifier {word : List Char} (h : Unicode.isIdentifier word = true) :
    (∃ c rest, word = c :: rest ∧ isWordStart c = true) ∧ ∀ c ∈ word, isWordChar c = true := by
  cases word with
  | nil => simp [Unicode.isIdentifier] at h
  | cons c rest =>
    simp only [Unicode.isIdentifier, Bool.and_eq_true, List.all_eq_true] at h
    have hstart := isWordStart_of_isIdentifierStart h.1
    refine ⟨⟨c, rest, rfl, hstart⟩, fun d hd => ?_⟩
    rcases List.mem_cons.1 hd with rfl | hd
    · exact isWordChar_of_isWordStart hstart
    · exact isWordChar_of_isIdentifierChar (h.2 d hd)

/-- The character that begins a word means nothing else to the lexer. -/
lemma ne_of_isWordStart {c : Char} (h : isWordStart c = true) :
    c ≠ ' ' ∧ c ≠ '\t' ∧ c ≠ '\x0c' ∧ c ≠ '\\' ∧ c ≠ '#' ∧ c ≠ '\n' ∧ c ≠ '.' := by
  refine ⟨?_, ?_, ?_, ?_, ?_, ?_, ?_⟩ <;> rintro rfl <;> revert h <;> decide

/-- No digit begins a word. -/
lemma isDigit_of_isWordStart {c : Char} (h : isWordStart c = true) : c.isDigit = false := by
  by_contra hdigit
  have hdigit : c.isDigit = true := by simpa using hdigit
  simp only [isWordStart, Unicode.isAsciiNameStart, Char.isAlpha, Char.isUpper, Char.isLower,
    Char.isDigit, Bool.or_eq_true, Bool.and_eq_true, decide_eq_true_eq, beq_iff_eq, ge_iff_le,
    UInt32.le_iff_toNat_le, Char.toNat] at h hdigit
  rcases h with h | (h | h) | rfl <;> simp_all <;> omega

/-! ## Texts between quotes -/

/-- No character of a word means anything inside of quotes. -/
lemma ne_of_isWordChar {c : Char} (h : isWordChar c = true) : c ≠ '\\' ∧ c ≠ '"' ∧ c ≠ '\n' := by
  refine ⟨?_, ?_, ?_⟩ <;> rintro rfl <;> revert h <;> decide

/-- A word between quotes ends at the quote behind it. -/
lemma quoted_word {word : List Char} (hw : ∀ c ∈ word, isWordChar c = true) (rest : List Char) :
    ∀ done, quoted '"' false false done (word ++ '"' :: rest) =
      some (done.reverse ++ word, rest) := by
  induction word with
  | nil => simp [quoted]
  | cons c word ih =>
    intro done
    obtain ⟨hescape, hquote, hend⟩ := ne_of_isWordChar (hw c (by simp))
    rw [List.cons_append, quoted]
    simp [hescape, hquote, hend, ih fun d hd => hw d (List.mem_cons_of_mem _ hd)]

/-- A word holds no escape sequences. -/
lemma unescape_word {word : List Char} (hw : ∀ c ∈ word, isWordChar c = true) :
    unescape word = some (word.map some) := by
  unfold unescape
  induction word with
  | nil => rfl
  | cons c word ih =>
    obtain ⟨hescape, -, -⟩ := ne_of_isWordChar (hw c (by simp))
    have hword := ih fun d hd => hw d (List.mem_cons_of_mem _ hd)
    simp [unescapeUpTo, hword]

/-- Characters make up the text that they are. -/
lemma textOfUnits_map_some (cs : List Char) :
    textOfUnits (cs.map some) = some (String.ofList cs) := by
  have hunits : (cs.map some).mapM id = some cs := by
    induction cs with
    | nil => rfl
    | cons c cs ih => simp [ih]
  rw [textOfUnits, hunits, Option.map_some]

/-- The constant that a word between quotes is. -/
lemma quotedConstant_word {word : List Char} (hw : Unicode.isIdentifier word = true)
    (rest : List Char) : quotedConstant ⟨false, false, false⟩ ('"' :: (word ++ '"' :: rest)) =
      some (.text (some (String.ofList word)), rest) := by
  obtain ⟨⟨d, word, rfl, -⟩, hall⟩ := isWord_of_isIdentifier hw
  obtain ⟨-, hquote, -⟩ := ne_of_isWordChar (hall d (by simp))
  have hquoted : quoted '"' false false [] (d :: word ++ '"' :: rest) = some (d :: word, rest) :=
    quoted_word hall rest []
  have htoken : quotedToken ⟨false, false, false⟩ (d :: word) =
      some (.text (some (String.ofList (d :: word)))) := by
    simp only [quotedToken, unescape_word hall, Option.map_some, textOfUnits_map_some]
    rfl
  -- the second and the third character are looked at to tell whether there are three quotes
  have hconstant : quotedConstant ⟨false, false, false⟩ ('"' :: (d :: word ++ '"' :: rest)) =
      (quoted '"' false false [] (d :: word ++ '"' :: rest)).bind fun x =>
        (quotedToken ⟨false, false, false⟩ x.1).bind fun token => some (token, x.2) := by
    cases word <;> simp [quotedConstant, hquote.symm]
  rw [hconstant, hquoted, Option.bind_some, htoken, Option.bind_some]

namespace Scan

variable {rest : List Char} {tokens : List Token} {brackets : List Char} {c : Char}

/-! ## Steps -/

/-- A line goes on with its first word, if no bracket is open. -/
lemma leads_atLine (hc : isWordStart c = true) :
    (atLine [] (c :: rest) tokens).Leads (inside [] (c :: rest) tokens) := by
  obtain ⟨h₁, h₂, h₃, h₄, h₅, h₆, -⟩ := ne_of_isWordStart hc
  refine .of_step ?_ (by simp [atLine]) (by simp [cost, atLine, inside])
  simp [step, atLine, inside, startLine, indentation, enterLine, h₁, h₂, h₃, h₄, h₅, h₆]

/-- Nothing is opened by the indentation of a line within brackets. -/
lemma leads_atLine_of_brackets {n : ℕ} {opening : Char}
    (hc : c ≠ ' ' ∧ c ≠ '\t' ∧ c ≠ '\x0c' ∧ c ≠ '\\' ∧ c ≠ '#' ∧ c ≠ '\n') :
    (atLine (opening :: brackets) (List.replicate n ' ' ++ c :: rest) tokens).Leads
      (inside (opening :: brackets) (c :: rest) tokens) := by
  obtain ⟨h₁, h₂, h₃, h₄, h₅, h₆⟩ := hc
  have hindentation (width : Columns) : indentation width 0 (List.replicate n ' ' ++ c :: rest) =
      some (⟨width.wide + n, width.narrow + n⟩, c :: rest) := by
    induction n generalizing width with
    | zero => simp [indentation, h₁, h₂, h₃, h₄]
    | succ n ih =>
      rw [List.replicate_succ, List.cons_append, indentation, ih]
      simp [Nat.add_comm, Nat.add_left_comm]
  refine .of_step ?_ (by simp [atLine]) ?_
  · simp [step, atLine, inside, startLine, hindentation, h₅, h₆]
  · simp [cost, atLine, inside]

/-- A line with nothing in it is skipped. -/
lemma leads_atLine_empty :
    (atLine brackets ('\n' :: rest) tokens).Leads (atLine brackets rest tokens) := by
  refine .of_step ?_ (by simp [atLine]) (by simp [cost, atLine])
  simp [step, atLine, startLine, indentation]

/-- A word ends before a character that belongs to none and does not begin a text. -/
lemma leads_word {name : String} (hname : Unicode.isIdentifier name.toList = true)
    (hc : isWordChar c = false ∧ c ≠ '"' ∧ c ≠ '\'') :
    (inside brackets (name.toList ++ c :: rest) tokens).Leads
      (inside brackets (c :: rest) (.word name :: tokens)) := by
  obtain ⟨⟨d, word, hword, hd⟩, hall⟩ := isWord_of_isIdentifier hname
  obtain ⟨h₁, h₂, h₃, h₄, h₅, h₆, h₇⟩ := ne_of_isWordStart hd
  have htake : (name.toList ++ c :: rest).takeWhile isWordChar = name.toList := by
    rw [List.takeWhile_append_of_pos hall, List.takeWhile_cons_of_neg (by simp [hc]),
      List.append_nil]
  have hpush : (inside brackets (name.toList ++ c :: rest) tokens).pushWord =
      some (inside brackets (c :: rest) (.word name :: tokens)) := by
    simp [pushWord, inside, htake, hc, hname, push, String.ofList_toList]
  refine .of_step ?_ (by simp [inside]) ?_
  · rw [← hpush, hword]
    simp [step, inside, h₁, h₂, h₃, h₄, h₅, h₆, h₇, hd]
  · simp [cost, inside, hword]

/-- A blank within a line is skipped. -/
lemma leads_blank :
    (inside brackets (' ' :: rest) tokens).Leads (inside brackets rest tokens) := by
  refine .of_step ?_ (by simp [inside]) (by simp [cost, inside])
  simp [step, inside]

/-- The end of a line, if no bracket is open. -/
lemma leads_newline :
    (inside [] ('\n' :: rest) tokens).Leads (atLine [] rest (.newline :: tokens)) := by
  refine .of_step ?_ (by simp [inside]) (by simp [cost, inside, atLine]; omega)
  simp [step, inside, atLine, push]

/-- Within brackets the end of a line is skipped. -/
lemma leads_newline_of_brackets {opening : Char} :
    (inside (opening :: brackets) ('\n' :: rest) tokens).Leads
      (atLine (opening :: brackets) rest tokens) := by
  refine .of_step ?_ (by simp [inside]) (by simp [cost, inside, atLine]; omega)
  simp [step, inside, atLine]

/-- A single point before anything but a digit or another point. -/
lemma leads_point (hpoint : c ≠ '.') (hdigit : c.isDigit = false) :
    (inside brackets ('.' :: c :: rest) tokens).Leads
      (inside brackets (c :: rest) (.mark "." :: tokens)) := by
  have hmark : mark? ('.' :: c :: rest) = some "." := by
    simp [mark?, marks, List.isPrefixOf, hpoint.symm]
  refine .of_step ?_ (by simp [inside]) (by simp [cost, inside])
  simp [step, inside, hdigit, hmark, pushMark, push, show ".".length = 1 from rfl]

/-- A character that begins nothing but a mark is taken as one. -/
lemma step_eq_mark (hstart : isWordStart c = false) (hdigit : c.isDigit = false)
    (hc : c ∉ ['\\', '.', ' ', '\t', '\x0c', '#', '\n', '"', '\'']) :
    (inside brackets (c :: rest) tokens).step =
      (mark? (c :: rest)).bind (inside brackets (c :: rest) tokens).pushMark := by
  simp only [List.mem_cons, List.not_mem_nil, or_false, not_or] at hc
  obtain ⟨h₁, h₂, h₃, h₄, h₅, h₆, h₇, h₈, h₉⟩ := hc
  simp [step, inside, *]

/-- A comma is a mark. -/
lemma leads_comma :
    (inside brackets (',' :: rest) tokens).Leads (inside brackets rest (.mark "," :: tokens)) := by
  have hmark : mark? (',' :: rest) = some "," := rfl
  refine .of_step ?_ (by simp [inside]) (by simp [cost, inside])
  rw [step_eq_mark (by decide) (by decide) (by decide), hmark]
  simp [inside, pushMark, push, show ",".length = 1 from rfl]

/-- An equals sign before a blank. -/
lemma leads_equals :
    (inside brackets ('=' :: ' ' :: rest) tokens).Leads
      (inside brackets (' ' :: rest) (.mark "=" :: tokens)) := by
  have hmark : mark? ('=' :: ' ' :: rest) = some "=" := rfl
  refine .of_step ?_ (by simp [inside]) (by simp [cost, inside])
  rw [step_eq_mark (by decide) (by decide) (by decide), hmark]
  simp [inside, pushMark, push, show "=".length = 1 from rfl]

/-- The brackets that an index has. -/
lemma leads_bracket {opening closing : Char} {m m' : String}
    (h : (opening, m, closing, m') = ('(', "(", ')', ")") ∨
      (opening, m, closing, m') = ('[', "[", ']', "]")) :
    (inside [] (opening :: rest) tokens).Leads (inside [opening] rest (.mark m :: tokens)) ∧
      (inside [opening] (closing :: rest) tokens).Leads (inside [] rest (.mark m' :: tokens)) := by
  simp only [Prod.mk.injEq] at h
  obtain ⟨rfl, rfl, rfl, rfl⟩ | ⟨rfl, rfl, rfl, rfl⟩ := h
  all_goals
    refine ⟨.of_step ?_ (by simp [inside]) (by simp [cost, inside]),
      .of_step ?_ (by simp [inside]) (by simp [cost, inside])⟩
    all_goals
      rw [step_eq_mark (by decide) (by decide) (by decide)]
      rfl

/-- A word between quotes is a text. -/
lemma leads_text {name : String} (hname : Unicode.isIdentifier name.toList = true) :
    (inside brackets ('"' :: (name.toList ++ '"' :: rest)) tokens).Leads
      (inside brackets rest (.text (some name) :: tokens)) := by
  refine .of_step ?_ (by simp [inside]) (by simp [cost, inside]; omega)
  have hstart : isWordStart '"' = false := by decide
  have hdigit : '"'.isDigit = false := by decide
  simp [step, inside, hstart, hdigit, quotedConstant_word hname, push, String.ofList_toList]

/-! ## Lines -/

/-- A line that begins with a word, if no bracket is open. -/
lemma leads_firstWord {name : String} (hname : Unicode.isIdentifier name.toList = true)
    (hc : isWordChar c = false ∧ c ≠ '"' ∧ c ≠ '\'') :
    (atLine [] (name.toList ++ c :: rest) tokens).Leads
      (inside [] (c :: rest) (.word name :: tokens)) := by
  refine Leads.trans ?_ (leads_word hname hc)
  obtain ⟨⟨d, word, hword, hd⟩, -⟩ := isWord_of_isIdentifier hname
  rw [hword]
  exact leads_atLine hd

/-- Lines that are read one after another are read as a whole. -/
lemma leads_flatMap {α : Type} {text : α → List Char} {read : α → List Token} {xs : List α}
    (h : ∀ x ∈ xs, ∀ rest tokens, (atLine brackets (text x ++ rest) tokens).Leads
      (atLine brackets rest ((read x).reverse ++ tokens))) (rest : List Char) :
    ∀ tokens, (atLine brackets (xs.flatMap text ++ rest) tokens).Leads
      (atLine brackets rest ((xs.flatMap read).reverse ++ tokens)) := by
  induction xs with
  | nil => exact fun _ => .refl _
  | cons x xs ih =>
    intro tokens
    have hfirst := h x (by simp) (xs.flatMap text ++ rest) tokens
    have hmore := ih (fun y hy => h y (List.mem_cons_of_mem _ hy)) ((read x).reverse ++ tokens)
    rw [List.flatMap_cons, List.flatMap_cons, List.append_assoc, List.reverse_append,
      List.append_assoc]
    exact hfirst.trans hmore

end Scan

end PackageIndex.Source

namespace PackageIndex

/-- The names in a statement of an index. -/
def Statement.names : Statement → List String
  | .module name => [name]
  | .member source attr => [source, attr]

namespace Index

open Source Source.Scan

/-- The tokens of a line that imports a module. -/
def importTokens (name : String) : List Token :=
  [.word "from", .mark ".", .word "import", .word name, .newline]

/-- The tokens of a name in a group. -/
def attributeTokens (attr : String) : List Token := [.word attr, .mark ","]

/-- The tokens of a group. -/
def groupTokens (group : String × List String) : List Token :=
  .word "from" :: .mark "." :: .word group.1 :: .word "import" :: .mark "(" ::
    (group.2.flatMap attributeTokens ++ [Token.mark ")", Token.newline])

/-- The tokens of a name in the listing. -/
def entryTokens (name : String) : List Token := [.text (some name), .mark ","]

/-- The tokens of the listing. -/
def listingTokens (names : List String) : List Token :=
  .word listingName :: .mark "=" :: .mark "[" ::
    (names.flatMap entryTokens ++ [Token.mark "]", Token.newline])

/-- The tokens of an index. -/
def tokens (statements : List Statement) (sort : Bool) : List Token :=
  (imports statements sort).flatMap importTokens ++
    (groups statements sort).flatMap groupTokens ++ listingTokens (listing statements sort)

/-- Some lines, each of them ended, as characters. -/
def lineChars (ls : List String) : List Char := ls.flatMap fun l => l.toList ++ ['\n']

/-- The text of some lines has their characters. -/
lemma toList_unlines (ls : List String) : (unlines ls).toList = lineChars ls := by
  unfold lineChars
  induction ls with
  | nil => rfl
  | cons l ls ih =>
    rw [unlines_cons, List.flatMap_cons, String.toList_append, ih, String.toList_append]
    rfl

variable {rest : List Char} {done : List Token}

/-- The line that imports a module. -/
lemma leads_importLine {name : String} (hname : Unicode.isIdentifier name.toList = true) :
    (atLine [] (lineChars [importLine name] ++ rest) done).Leads
      (atLine [] rest ((importTokens name).reverse ++ done)) := by
  have hchars : lineChars [importLine name] ++ rest = "from".toList ++
      ' ' :: '.' :: ' ' :: ("import".toList ++ ' ' :: (name.toList ++ '\n' :: rest)) := by
    simp [lineChars, importLine]
  rw [hchars]
  refine (leads_firstWord (by decide) (by decide)).trans <| leads_blank.trans ?_
  refine (leads_point (by decide) (by decide)).trans <| leads_blank.trans ?_
  refine (leads_word (by decide) (by decide)).trans <| leads_blank.trans ?_
  exact (leads_word hname (by decide)).trans leads_newline

/-- A point before an identifier. -/
lemma leads_point_word {name : String} (hname : Unicode.isIdentifier name.toList = true) {c : Char}
    (hc : isWordChar c = false ∧ c ≠ '"' ∧ c ≠ '\'') :
    (inside [] ('.' :: (name.toList ++ c :: rest)) done).Leads
      (inside [] (c :: rest) (.word name :: .mark "." :: done)) := by
  refine Leads.trans ?_ (leads_word hname hc)
  obtain ⟨⟨d, word, hword, hd⟩, -⟩ := isWord_of_isIdentifier hname
  obtain ⟨-, -, -, -, -, -, hpoint⟩ := ne_of_isWordStart hd
  rw [hword]
  exact leads_point hpoint (isDigit_of_isWordStart hd)

/-- The line of an attribute, within the parentheses of its group. -/
lemma leads_attribute {attr : String} (hattr : Unicode.isIdentifier attr.toList = true) :
    (atLine ['('] (lineChars ["    " ++ attr ++ ","] ++ rest) done).Leads
      (atLine ['('] rest ((attributeTokens attr).reverse ++ done)) := by
  have hchars : lineChars ["    " ++ attr ++ ","] ++ rest =
      List.replicate 4 ' ' ++ (attr.toList ++ ',' :: '\n' :: rest) := by
    simp [lineChars, List.replicate]
  have hword :
      (atLine ['('] (List.replicate 4 ' ' ++ (attr.toList ++ ',' :: '\n' :: rest)) done).Leads
      (inside ['('] (attr.toList ++ ',' :: '\n' :: rest) done) := by
    obtain ⟨⟨d, word, hword, hd⟩, -⟩ := isWord_of_isIdentifier hattr
    obtain ⟨h₁, h₂, h₃, h₄, h₅, h₆, -⟩ := ne_of_isWordStart hd
    rw [hword]
    exact leads_atLine_of_brackets ⟨h₁, h₂, h₃, h₄, h₅, h₆⟩
  rw [hchars]
  refine hword.trans <| (leads_word hattr (by decide)).trans <| leads_comma.trans ?_
  exact leads_newline_of_brackets

/-- The line of a listed name, within the brackets of the listing. -/
lemma leads_entry {name : String} (hname : Unicode.isIdentifier name.toList = true) :
    (atLine ['['] (lineChars [listingLine name] ++ rest) done).Leads
      (atLine ['['] rest ((entryTokens name).reverse ++ done)) := by
  have hchars : lineChars [listingLine name] ++ rest =
      List.replicate 4 ' ' ++ '"' :: (name.toList ++ '"' :: ',' :: '\n' :: rest) := by
    simp [lineChars, listingLine, List.replicate]
  rw [hchars]
  refine (leads_atLine_of_brackets (by decide)).trans <| (leads_text hname).trans <|
    leads_comma.trans ?_
  exact leads_newline_of_brackets

/-- The characters of some lines and then others. -/
lemma lineChars_append (ls ls' : List String) :
    lineChars (ls ++ ls') = lineChars ls ++ lineChars ls' :=
  List.flatMap_append

/-- The characters of one line for each item come item by item. -/
lemma lineChars_map {α : Type} (f : α → String) (xs : List α) :
    lineChars (xs.map f) = xs.flatMap fun x => lineChars [f x] := by
  simp [lineChars, List.flatMap_map]

/-- The characters of some lines for each item come item by item. -/
lemma lineChars_flatMap {α : Type} (f : α → List String) (xs : List α) :
    lineChars (xs.flatMap f) = xs.flatMap fun x => lineChars (f x) := by
  simp [lineChars, List.flatMap_assoc]

/-- The lines that import the attributes of a module. -/
lemma leads_group {group : String × List String}
    (hgroup : Unicode.isIdentifier group.1.toList = true)
    (hattrs : ∀ attr ∈ group.2, Unicode.isIdentifier attr.toList = true) :
    (atLine [] (lineChars (groupLines group) ++ rest) done).Leads
      (atLine [] rest ((groupTokens group).reverse ++ done)) := by
  have hchars : lineChars (groupLines group) ++ rest =
      "from".toList ++ ' ' :: '.' :: (group.1.toList ++ ' ' :: ("import".toList ++ ' ' :: '(' ::
        '\n' :: ((group.2.flatMap fun attr => lineChars ["    " ++ attr ++ ","]) ++
          ')' :: '\n' :: rest))) := by
    rw [← lineChars_map, groupLines]
    simp [lineChars]
  have htokens : (groupTokens group).reverse ++ done =
      .newline :: .mark ")" :: ((group.2.flatMap attributeTokens).reverse ++ .mark "(" ::
        .word "import" :: .word group.1 :: .mark "." :: .word "from" :: done) := by
    simp [groupTokens]
  rw [hchars, htokens]
  refine (leads_firstWord (by decide) (by decide)).trans <| leads_blank.trans ?_
  refine (leads_point_word hgroup (by decide)).trans <| leads_blank.trans ?_
  refine (leads_word (by decide) (by decide)).trans <| leads_blank.trans ?_
  refine (leads_bracket (Or.inl rfl)).1.trans <| leads_newline_of_brackets.trans ?_
  refine (leads_flatMap (fun attr hattr _ _ => leads_attribute (hattrs attr hattr)) _ _).trans ?_
  refine (leads_atLine_of_brackets (n := 0) (by decide)).trans ?_
  exact (leads_bracket (Or.inl rfl)).2.trans leads_newline

/-- The lines that assign the listing. -/
lemma leads_listing {names : List String}
    (hnames : ∀ name ∈ names, Unicode.isIdentifier name.toList = true) :
    (atLine [] (lineChars (["__all__ = ["] ++ names.map listingLine ++ ["]"]) ++ rest) done).Leads
      (atLine [] rest ((listingTokens names).reverse ++ done)) := by
  have hchars : lineChars (["__all__ = ["] ++ names.map listingLine ++ ["]"]) ++ rest =
      listingName.toList ++ ' ' :: '=' :: ' ' :: '[' :: '\n' ::
        ((names.flatMap fun name => lineChars [listingLine name]) ++ ']' :: '\n' :: rest) := by
    rw [lineChars_append, lineChars_append, lineChars_map]
    simp [lineChars, listingName]
  have htokens : (listingTokens names).reverse ++ done =
      .newline :: .mark "]" :: ((names.flatMap entryTokens).reverse ++ .mark "[" :: .mark "=" ::
        .word listingName :: done) := by
    simp [listingTokens]
  rw [hchars, htokens]
  refine (leads_firstWord (by decide) (by decide)).trans <| leads_blank.trans ?_
  refine leads_equals.trans <| leads_blank.trans ?_
  refine (leads_bracket (Or.inr rfl)).1.trans <| leads_newline_of_brackets.trans ?_
  refine (leads_flatMap (fun name hname _ _ => leads_entry (hnames name hname)) _ _).trans ?_
  refine (leads_atLine_of_brackets (n := 0) (by decide)).trans ?_
  exact (leads_bracket (Or.inr rfl)).2.trans leads_newline

/-! ## Whole indexes -/

variable {statements : List Statement} {sort : Bool}

/-- A group has attributes, and each of them is imported by a statement. -/
lemma mem_groups {group : String × List String} (h : group ∈ groups statements sort) :
    group.2 ≠ [] ∧ ∀ attr ∈ group.2, .member group.1 attr ∈ statements := by
  unfold groups groupPairs at h
  obtain ⟨key, hkey, rfl⟩ := List.mem_map.1 h
  rw [List.mem_eraseDups, List.mem_map] at hkey
  obtain ⟨p, hp, rfl⟩ := hkey
  constructor
  · simpa using ⟨p.2, hp⟩
  · intro attr hattr
    obtain ⟨q, hq, rfl⟩ := List.mem_map.1 hattr
    obtain ⟨hq, hkey⟩ := List.mem_filter.1 hq
    rw [(members_perm statements sort).mem_iff, List.mem_filterMap] at hq
    obtain ⟨x, hx, hmember⟩ := hq
    cases x with
    | module name => cases hmember
    | member source attr =>
      obtain rfl : (source, attr) = q := Option.some.inj hmember
      obtain rfl : source = p.1 := by simpa using hkey
      exact hx

section Names

variable {P : String → Prop} (h : ∀ x ∈ statements, ∀ name ∈ x.names, P name)

include h

/-- What holds of all names in the statements holds of the imported modules. -/
lemma forall_mem_imports : ∀ name ∈ imports statements sort, P name := fun name hname =>
  h _ (mem_imports.1 hname) name (by simp [Statement.names])

/-- What holds of all names in the statements holds of the groups and their attributes. -/
lemma forall_mem_groups :
    ∀ group ∈ groups statements sort, P group.1 ∧ ∀ attr ∈ group.2, P attr := by
  intro group hgroup
  obtain ⟨hne, hmember⟩ := mem_groups hgroup
  obtain ⟨attr, hattr⟩ := List.exists_mem_of_ne_nil _ hne
  exact ⟨h _ (hmember attr hattr) _ (by simp [Statement.names]), fun attr hattr =>
    h _ (hmember attr hattr) _ (by simp [Statement.names])⟩

/-- What holds of all names in the statements holds of the listed names. -/
lemma forall_mem_listing : ∀ name ∈ listing statements sort, P name := by
  intro name hname
  obtain ⟨x, hx, rfl⟩ := List.mem_map.1 (mem_listing.1 hname)
  exact h x hx _ (by cases x <;> simp [Statement.names, Statement.bound])

end Names

/-- An index whose names are identifiers is divided into the tokens of its lines. -/
theorem tokens_render
    (h : ∀ x ∈ statements, ∀ name ∈ x.names, Unicode.isIdentifier name.toList = true) :
    Source.tokens (render statements sort).toList = some (tokens statements sort) := by
  have himports : ∀ name ∈ imports statements sort, ∀ rest done,
      (atLine [] (lineChars [importLine name] ++ rest) done).Leads
        (atLine [] rest ((importTokens name).reverse ++ done)) := fun name hname _ _ =>
    leads_importLine (forall_mem_imports h name hname)
  have hgroups : ∀ group ∈ groups statements sort, ∀ rest done,
      (atLine [] (lineChars (groupLines group) ++ rest) done).Leads
        (atLine [] rest ((groupTokens group).reverse ++ done)) := fun group hgroup _ _ =>
    leads_group (forall_mem_groups h group hgroup).1 (forall_mem_groups h group hgroup).2
  have hlisting (done : List Token) :
      (atLine [] (lineChars (["__all__ = ["] ++ (listing statements sort).map listingLine ++
        ["]"]) ++ []) done).Leads
        (atLine [] [] ((listingTokens (listing statements sort)).reverse ++ done)) :=
    leads_listing (forall_mem_listing h)
  have hchars : (render statements sort).toList =
      (imports statements sort).flatMap (fun name => lineChars [importLine name]) ++ '\n' ::
        ((groups statements sort).flatMap (fun group => lineChars (groupLines group)) ++ '\n' ::
          (lineChars (["__all__ = ["] ++ (listing statements sort).map listingLine ++ ["]"]) ++
            [])) := by
    rw [render, toList_unlines, lines, ← lineChars_map, ← lineChars_flatMap]
    simp [lineChars]
  -- one section after another, with an empty line between them
  have hleads : (atLine [] (render statements sort).toList []).Leads
      (atLine [] [] (tokens statements sort).reverse) := by
    rw [hchars]
    refine (leads_flatMap himports _ []).trans <| leads_atLine_empty.trans ?_
    refine (leads_flatMap hgroups _ _).trans <| leads_atLine_empty.trans ?_
    simpa [tokens] using hlisting _
  have hlast : (render statements sort).toList.getLast? = some '\n' := by
    rw [render, toList_unlines, lines, lineChars_append, List.getLast?_append]
    rfl
  have hcost : (atLine [] (render statements sort).toList []).cost <
      2 * (render statements sort).toList.length + 2 := by
    simp [cost, atLine]
  rw [Source.tokens, if_pos hlast]
  refine (hleads.run_eq rfl hcost).trans ?_
  simp [finish, atLine]

end Index

end PackageIndex
