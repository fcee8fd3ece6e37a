import PackageIndex.Proofs.Tokens

/-!
# Trees of indexes

What a parser does with a list of tokens is computed rule by rule.  `Parser.Takes` says that a
parser takes some tokens and has a result; the basic parsers are evaluated by `simp`, with one lemma
for each of them.  Repetitions are described by `Parser.Repeats`, and lists with a comma behind each
item, which is all that an index has, by `Parser.takes_commaList`.

An index is an import for each module and each group, and an assignment of the listing.
`ofChars?_render` gives the tree of its text: if all names are identifiers and none is a keyword,
the text is a module in every version of the language.
-/

namespace PackageIndex.Source

namespace Parser

variable {α β : Type} {ts rest : List Token} {t : Token}

/-- The parser takes some tokens, leaves the others and has a result. -/
def Takes (p : Parser α) (ts : List Token) (a : α) (rest : List Token) : Prop :=
  p.run (.ofTokens ts) = some (a, .ofTokens rest)

/-! ## Basic parsers -/

/-- A token ahead is seen and not taken. -/
@[simp] lemma run_ahead? (i : ℕ) :
    (ahead? i).run (.ofTokens ts) = some (ts[i]?, .ofTokens ts) := rfl

/-- A repetition may go on once for each token, and once more. -/
@[simp] lemma run_limit : limit.run (.ofTokens ts) = some (ts.length + 1, .ofTokens ts) := rfl

/-- Nothing is left if there are no tokens. -/
@[simp] lemma run_isFinished :
    isFinished.run (.ofTokens ts) = some (ts.isEmpty, .ofTokens ts) := rfl

/-- A token ahead is compared and not taken. -/
@[simp] lemma run_isAhead (i : ℕ) (t : Token) :
    (isAhead i t).run (.ofTokens ts) = some (ts[i]? == some t, .ofTokens ts) := rfl

/-- The next token is taken, whatever it is. -/
@[simp] lemma run_token : token.run (.ofTokens (t :: ts)) = some (t, .ofTokens ts) := rfl

/-- No token is taken where there is none. -/
@[simp] lemma run_token_nil : token.run (.ofTokens []) = none := rfl

/-- A token is taken if it is next. -/
@[simp] lemma run_tryToken : (tryToken t).run (.ofTokens ts) =
    if ts.head? = some t then some (true, .ofTokens ts.tail)
    else some (false, .ofTokens ts) := by
  unfold tryToken
  cases ts with
  | nil => simp
  | cons t' ts => by_cases h : t' = t <;> simp [h]

/-- A token that is expected is next, or the parser fails. -/
@[simp] lemma run_expect : (expect t).run (.ofTokens ts) =
    if ts.head? = some t then some ((), .ofTokens ts.tail) else none := by
  unfold expect
  by_cases h : ts.head? = some t <;> simp [h]

/-- The next token is taken if it is one of some marks. -/
@[simp] lemma run_tryMarkIn (spellings : List String) :
    (tryMarkIn spellings).run (.ofTokens ts) = match ts with
      | .mark m :: rest =>
        if m ∈ spellings then some (true, .ofTokens rest) else some (false, .ofTokens ts)
      | _ => some (false, .ofTokens ts) := by
  unfold tryMarkIn tryMark
  cases ts with
  | nil => simp
  | cons t ts =>
    cases t <;> simp
    split_ifs <;> simp

/-- The next token is taken if it is one of some words. -/
@[simp] lemma run_tryWordIn (spellings : List String) :
    (tryWordIn spellings).run (.ofTokens ts) = match ts with
      | .word w :: rest =>
        if w ∈ spellings then some (true, .ofTokens rest) else some (false, .ofTokens ts)
      | _ => some (false, .ofTokens ts) := by
  unfold tryWordIn tryWord
  cases ts with
  | nil => simp
  | cons t ts =>
    cases t <;> simp
    split_ifs <;> simp

/-- A word that is no keyword is taken as a name, in its normal form. -/
@[simp] lemma run_name : name.run (.ofTokens ts) = match ts with
    | .word w :: rest =>
      if w ∈ keywords then none else some (Unicode.normalForm w, .ofTokens rest)
    | _ => none := by
  unfold name
  cases ts with
  | nil => simp
  | cons t ts =>
    cases t <;> simp
    split_ifs <;> rfl

/-- A name ahead is a word that is no keyword. -/
@[simp] lemma run_isName (i : ℕ) : (isName i).run (.ofTokens ts) =
    some (match ts[i]? with
      | some (.word w) => decide (w ∉ keywords)
      | _ => false, .ofTokens ts) := by
  unfold isName
  rcases hi : ts[i]? with _ | t
  · simp [hi]
  · cases t <;> simp [hi]

/-- A condition takes no tokens and fails if it does not hold. -/
@[simp] lemma run_ensure (condition : Bool) : (ensure condition).run (.ofTokens ts) =
    if condition then some ((), .ofTokens ts) else none := by
  cases condition <;> rfl

/-- A parser that is attempted takes its tokens, or none if it fails. -/
@[simp] lemma run_attempt (p : Parser α) : (attempt p).run (.ofTokens ts) =
    some (((p.run (.ofTokens ts)).map fun x => (some x.1, x.2)).getD (none, .ofTokens ts)) := by
  unfold attempt
  change ((some <$> p).run _ <|> (pure none : Parser (Option α)).run _) = _
  rw [StateT.run_map]
  cases p.run (.ofTokens ts) <;> rfl

/-! ## Repetitions -/

/-- A parser gives some results one after another, taking a token at least for each, and then gives
nothing. -/
inductive Repeats (p : Parser (Option α)) : List Token → List α → List Token → Prop
  | stop {ts : List Token} : p.Takes ts none ts → Repeats p ts [] ts
  | step {ts ts' rest : List Token} {a : α} {as : List α} : p.Takes ts (some a) ts' →
      ts'.length < ts.length → Repeats p ts' as rest → Repeats p ts (a :: as) rest

/-- The results of a repetition are collected. -/
lemma Repeats.takes {p : Parser (Option α)} {as : List α} (h : Repeats p ts as rest) :
    (collect p).Takes ts as rest := by
  have hcollect : ∀ limit, ts.length < limit → (collectUpTo p limit).Takes ts as rest := by
    induction h with
    | stop hstop =>
      intro limit hlimit
      obtain ⟨limit, rfl⟩ : ∃ k, limit = k + 1 := ⟨limit - 1, by omega⟩
      simp only [Takes] at hstop ⊢
      simp [collectUpTo, hstop]
    | step hstep hlength _ ih =>
      intro limit hlimit
      obtain ⟨limit, rfl⟩ : ∃ k, limit = k + 1 := ⟨limit - 1, by omega⟩
      have hmore := ih limit (by omega)
      simp only [Takes] at hstep hmore ⊢
      simp [collectUpTo, hstep, hmore]
  exact hcollect _ (Nat.lt_succ_self _)

/-- Nothing is repeated if nothing goes on. -/
lemma takes_collectWhile_nil {goesOn : Parser Bool} {p : Parser α}
    (h : goesOn.run (.ofTokens ts) = some (false, .ofTokens ts)) :
    (collectWhile goesOn p).Takes ts [] ts := by
  refine Repeats.takes (.stop ?_)
  simp [Takes, h]

/-- One item, behind which there is no separator. -/
lemma takes_separated {separator : Parser Unit} {item : Parser α} {a : α}
    (h : item.Takes ts a rest) (hseparator : separator.run (.ofTokens rest) = none) :
    (separated separator item).Takes ts [a] rest := by
  have hmore : (moreItems separator item).Takes rest [] rest :=
    Repeats.takes (.stop (by simp [Takes, hseparator]))
  simp only [Takes] at h hmore ⊢
  simp [separated, h, hmore]

section CommaList

variable {item : Parser β} {token : α → Token} {value : α → β} {close : Token} {a : α} {as : List α}
  (hitem : ∀ b ∈ a :: as, ∀ ts,
    item.Takes (token b :: .mark "," :: ts) (value b) (.mark "," :: ts))
  (hclose : item.run (.ofTokens (close :: rest)) = none)

include hitem hclose

/-- Items with a comma behind each of them. -/
lemma takes_commaList : (commaList item).Takes
    ((a :: as).flatMap (fun b => [token b, .mark ","]) ++ close :: rest)
    ((a :: as).map value, true) (close :: rest) := by
  have hmore : Repeats (attempt (do mark ","; item))
      (.mark "," :: (as.flatMap (fun b => [token b, .mark ","]) ++ close :: rest)) (as.map value)
      (.mark "," :: close :: rest) := by
    have has := fun b hb => hitem b (List.mem_cons_of_mem a hb)
    clear hitem
    induction as with
    | nil => exact .stop (by simp [Takes, mark, hclose])
    | cons b as ih =>
      refine .step ?_ (by simp) (ih fun c hc => has c (List.mem_cons_of_mem b hc))
      have hb := has b (by simp) (as.flatMap (fun b => [token b, .mark ","]) ++ close :: rest)
      simp only [Takes] at hb ⊢
      simp [mark, hb]
  have hfirst := hitem a (by simp) (as.flatMap (fun b => [token b, .mark ","]) ++ close :: rest)
  have hmore := hmore.takes
  simp only [Takes] at hfirst hmore ⊢
  simp [commaList, separated, moreItems, tryMark, hfirst, hmore]

end CommaList

end Parser

/-! ## Expressions -/

namespace Expression.Context

open PackageIndex.Source.Parser

variable {g : Expression.Context} {ts rest : List Token} {e : Expr}

/-- The next token begins an expression and is none of the words and marks that can stand before
an operand. -/
def BeginsOperand (ts : List Token) : Prop := ∃ t rest, ts = t :: rest ∧
  (t = .mark "[" ∨ (∃ value, t = .text value) ∨ ∃ w ∉ keywords, t = .word w)

/-- The next token is one that no expression goes on with. -/
def EndsExpression (ts : List Token) : Prop := ∃ t rest, ts = t :: rest ∧
  (t = .newline ∨ t = .mark "," ∨ t = .mark "]" ∨ t = .mark "=")

/-- No keyword stands before an operand. -/
lemma BeginsOperand.run_tryWord (h : BeginsOperand ts) (spelling : String)
    (hs : spelling ∈ keywords) :
    (tryWord spelling).run (.ofTokens ts) = some (false, .ofTokens ts) := by
  obtain ⟨t, rest, rfl, rfl | ⟨value, rfl⟩ | ⟨w, hw, rfl⟩⟩ := h
  · simp [tryWord]
  · simp [tryWord]
  · have hne : w ≠ spelling := fun heq => hw (heq ▸ hs)
    simp [tryWord, hne]

/-- No word stands where an expression ends. -/
lemma EndsExpression.run_tryWord (h : EndsExpression ts) (spelling : String) :
    (tryWord spelling).run (.ofTokens ts) = some (false, .ofTokens ts) := by
  obtain ⟨t, rest, rfl, rfl | rfl | rfl | rfl⟩ := h <;> simp [tryWord]

/-- An atom is an expression if nothing belongs to it before or behind. -/
lemma takes_fullExpression (h : g.atom.Takes ts e rest) (hts : BeginsOperand ts)
    (hrest : EndsExpression rest) : g.fullExpression.Takes ts e rest := by
  -- from the tightest rule of the grammar to the loosest: none of them finds anything to add
  have hprimary : g.primary.Takes ts e rest := by
    have htrailers : (collect g.trailer?).Takes rest [] rest := by
      refine Repeats.takes (.stop ?_)
      obtain ⟨t, rest, rfl, rfl | rfl | rfl | rfl⟩ := hrest <;> simp [Takes, trailer?, tryMark]
    simp only [Takes] at h htrailers ⊢
    simp [primary, h, htrailers]
  have hoperand : g.operand.Takes ts e rest := by
    have hsigns : (collectWhile (tryMarkIn signs) (pure ())).Takes ts [] ts := by
      refine takes_collectWhile_nil ?_
      obtain ⟨t, rest, rfl, rfl | ⟨value, rfl⟩ | ⟨w, hw, rfl⟩⟩ := hts <;> simp [signs]
    have hawait := hts.run_tryWord "await" (by decide)
    simp only [Takes] at hprimary hsigns ⊢
    simp [operand, hprimary, hsigns, hawait]
  have hsum : g.sum.Takes ts e rest := by
    have hmore : (collectWhile (tryMarkIn binaryOperators) g.operand).Takes rest [] rest := by
      refine takes_collectWhile_nil ?_
      obtain ⟨t, rest, rfl, rfl | rfl | rfl | rfl⟩ := hrest <;> simp [binaryOperators]
    simp only [Takes] at hoperand hmore ⊢
    simp [sum, hoperand, hmore]
  have hcomparison : g.comparison.Takes ts e rest := by
    have hnegations : (collectWhile (tryWord "not") (pure ())).Takes ts [] ts :=
      takes_collectWhile_nil (hts.run_tryWord _ (by decide))
    have hmore : (collectWhile tryComparison g.sum).Takes rest [] rest := by
      refine takes_collectWhile_nil ?_
      obtain ⟨t, rest, rfl, rfl | rfl | rfl | rfl⟩ := hrest <;>
        simp [tryComparison, comparisonMarks, tryWord, isWord]
    simp only [Takes] at hsum hnegations hmore ⊢
    simp [comparison, hsum, hnegations, hmore]
  have hdisjunction : g.disjunction.Takes ts e rest := by
    have hmore : (collectWhile (tryWordIn ["or", "and"]) g.comparison).Takes rest [] rest := by
      refine takes_collectWhile_nil ?_
      obtain ⟨t, rest, rfl, rfl | rfl | rfl | rfl⟩ := hrest <;> simp
    simp only [Takes] at hcomparison hmore ⊢
    simp [disjunction, hcomparison, hmore]
  have hlambda := hts.run_tryWord "lambda" (by decide)
  have hchoice := hrest.run_tryWord "if"
  simp only [Takes] at hdisjunction ⊢
  simp [fullExpression, hdisjunction, hlambda, hchoice]

/-- No expression begins with a closing bracket. -/
lemma run_fullExpression_close :
    g.fullExpression.run (.ofTokens (.mark "]" :: rest)) = none := by
  have hsigns : (collectWhile (tryMarkIn signs) (pure ())).Takes (.mark "]" :: rest) []
      (.mark "]" :: rest) := takes_collectWhile_nil (by simp [signs])
  have hnegations : (collectWhile (tryWord "not") (pure ())).Takes (.mark "]" :: rest) []
      (.mark "]" :: rest) := takes_collectWhile_nil (by simp [tryWord])
  have hlambda : (tryWord "lambda").run (.ofTokens (.mark "]" :: rest)) =
      some (false, .ofTokens (.mark "]" :: rest)) := by simp [tryWord]
  have hawait : (tryWord "await").run (.ofTokens (.mark "]" :: rest)) =
      some (false, .ofTokens (.mark "]" :: rest)) := by simp [tryWord]
  have hprimary : g.primary.run (.ofTokens (.mark "]" :: rest)) = none := by
    simp [primary, atom]
  simp only [Takes] at hsigns hnegations
  have hoperand : g.operand.run (.ofTokens (.mark "]" :: rest)) = none := by
    simp [operand, hsigns, hawait, hprimary]
  have hsum : g.sum.run (.ofTokens (.mark "]" :: rest)) = none := by
    simp [sum, hoperand]
  have hcomparison : g.comparison.run (.ofTokens (.mark "]" :: rest)) = none := by
    simp [comparison, hnegations, hsum]
  simp [fullExpression, hlambda, disjunction, hcomparison]

/-! ### Atoms -/

/-- A name by itself. -/
lemma takes_atom_name {w : String} (hw : w ∉ keywords) :
    g.atom.Takes (.word w :: rest) (.name (Unicode.normalForm w)) rest := by
  have hconstant : w ∉ ["True", "False", "None"] := fun h =>
    hw ((by decide : ["True", "False", "None"] ⊆ keywords) h)
  simp only [List.mem_cons, List.not_mem_nil, or_false] at hconstant
  simp [Takes, atom, hconstant, hw]

/-- A text by itself. -/
lemma takes_atom_text {value : String} (hrest : EndsExpression rest) :
    g.atom.Takes (.text (some value) :: rest) (.text value) rest := by
  have hparts : (collect textConstant.part?).Takes (.text (some value) :: rest)
      [.text (some value)] rest := by
    have hpart : textConstant.part?.Takes (.text (some value) :: rest) (some (.text (some value)))
        rest := by
      simp [Takes, textConstant.part?]
    refine Repeats.takes (.step hpart (by simp) (.stop ?_))
    · obtain ⟨t, rest, rfl, rfl | rfl | rfl | rfl⟩ := hrest <;> simp [Takes, textConstant.part?]
  simp only [Takes] at hparts ⊢
  simp [atom, textConstant, hparts]

section List

variable {inner : Expression.Context} (hself : g.self .expression = inner.fullExpression)

include hself

/-- A text in a list is an item of it. -/
lemma takes_starNamed_text {value : String} (hrest : EndsExpression rest) :
    g.starNamed.Takes (.text (some value) :: rest) (.text value) rest := by
  have htext : inner.fullExpression.Takes (.text (some value) :: rest) (.text value) rest :=
    takes_fullExpression (takes_atom_text hrest) ⟨_, _, rfl, Or.inr (Or.inl ⟨_, rfl⟩)⟩ hrest
  simp only [Takes] at htext ⊢
  simp [starNamed, starOr, named, isAssignmentExpression, tryMark, expression, hself, htext]

/-- No item of a list begins with a closing bracket. -/
lemma run_starNamed_close :
    g.starNamed.run (.ofTokens (.mark "]" :: rest)) = none := by
  simp [starNamed, starOr, named, isAssignmentExpression, tryMark, expression, hself,
    run_fullExpression_close]

/-- A list of texts with a comma behind each of them. -/
lemma takes_atom_list (names : List String) :
    g.atom.Takes (.mark "[" :: (names.flatMap Index.entryTokens ++ .mark "]" :: rest))
      (.list (names.map .text)) rest := by
  have hentry (name : String) (ts : List Token) :
      g.starNamed.Takes (.text (some name) :: .mark "," :: ts) (.text name) (.mark "," :: ts) :=
    takes_starNamed_text hself ⟨_, _, rfl, Or.inr (Or.inl rfl)⟩
  have hclose : g.starNamed.run (.ofTokens (.mark "]" :: rest)) = none :=
    run_starNamed_close hself
  have hbracketed : g.bracketed.Takes (names.flatMap Index.entryTokens ++ .mark "]" :: rest)
      (.list (names.map .text)) rest := by
    cases names with
    | nil => simp [Takes, bracketed, tryMark]
    | cons name names =>
      have hfirst := hentry name (names.flatMap Index.entryTokens ++ .mark "]" :: rest)
      -- behind the last comma no further list of entries is found
      have hmore : ∃ more, (attempt (commaList g.starNamed)).Takes
          (names.flatMap Index.entryTokens ++ .mark "]" :: rest) more (.mark "]" :: rest) ∧
          (more.map Prod.fst).getD [] = names.map .text := by
        cases names with
        | nil => exact ⟨none, by simp [Takes, commaList, separated, hclose], rfl⟩
        | cons second names =>
          have hlist : (commaList g.starNamed).Takes
              ((second :: names).flatMap Index.entryTokens ++ .mark "]" :: rest)
              ((second :: names).map .text, true) (.mark "]" :: rest) :=
            takes_commaList (fun _ _ => hentry _) hclose
          rw [Takes] at hlist
          exact ⟨some ((second :: names).map .text, true),
            by rw [Takes, run_attempt, hlist]; rfl, rfl⟩
      obtain ⟨more, hmore, hvalues⟩ := hmore
      rw [Takes] at hfirst hmore ⊢
      rw [List.flatMap_cons, List.map_cons, ← hvalues, Index.entryTokens, List.append_assoc]
      simp [bracketed, tryMark, mark, isClause, isWord, hfirst, hmore, -run_attempt]
  simp only [Takes] at hbracketed ⊢
  simp [atom, hbracketed]

/-- An atom that the line or an assignment ends is a list of expressions by itself. -/
lemma takes_starExpressions (h : inner.atom.Takes ts e rest) (hts : BeginsOperand ts)
    (hrest : ∃ t more, rest = t :: more ∧ (t = .newline ∨ t = .mark "=")) :
    g.starExpressions.Takes ts e rest := by
  obtain ⟨t, rest, rfl, ht⟩ := hrest
  have hends : EndsExpression (t :: rest) := ⟨t, rest, rfl, by tauto⟩
  have hcomma : t ≠ .mark "," := by rcases ht with rfl | rfl <;> simp
  have hexpression := takes_fullExpression h hts hends
  have hitem : g.starExpression.Takes ts e (t :: rest) := by
    have hstar : (tryMark "*").run (.ofTokens ts) = some (false, .ofTokens ts) := by
      obtain ⟨u, more, rfl, rfl | ⟨value, rfl⟩ | ⟨w, hw, rfl⟩⟩ := hts <;> simp [tryMark]
    simp only [Takes] at hexpression ⊢
    simp [starExpression, starOr, hstar, expression, hself, hexpression]
  have hitems : (separated (mark ",") g.starExpression).Takes ts [e] (t :: rest) :=
    takes_separated hitem (by simp [mark, hcomma])
  simp only [Takes] at hitems ⊢
  simp [starExpressions, commaList, hitems, tryMark, hcomma, tupleOf]

end List

end Expression.Context

/-! ## Statements -/

namespace Statement

open PackageIndex.Source.Parser

variable {rest : List Token}

/-- The point before the name of a module of the package. -/
lemma takes_dots (w : String) (rest : List Token) :
    (collectWhile (tryMarkIn [".", "..."]) (pure ())).Takes (.mark "." :: .word w :: rest) [()]
      (.word w :: rest) := by
  refine Repeats.takes (Repeats.step (?_ : Takes _ _ _ (.word w :: rest)) (by simp) (.stop ?_))
  · simp [Takes]
  · simp [Takes]

/-- An imported name keeps its name if a mark or the end of the line follows. -/
lemma takes_aliased {w m : String} (hw : w ∉ keywords) :
    (aliased name).Takes (.word w :: .mark m :: rest) () (.mark m :: rest) ∧
      (aliased name).Takes (.word w :: .newline :: rest) () (.newline :: rest) := by
  simp [Takes, aliased, tryWord, hw]

/-- A module that is imported from the package. -/
lemma takes_importFrom_module {w : String} (hw : w ∉ keywords) : importFrom.Takes
    (.mark "." :: .word "import" :: .word w :: .newline :: rest) () (.newline :: rest) := by
  have htargets : importTargets.Takes (.word w :: .newline :: rest) () (.newline :: rest) := by
    have hnames : (separated (mark ",") (aliased name)).Takes (.word w :: .newline :: rest) [()]
        (.newline :: rest) := takes_separated (takes_aliased (m := ",") hw).2 (by simp [mark])
    simp only [Takes] at hnames ⊢
    simp [importTargets, tryMark, hnames]
  have hdots := takes_dots "import" (.word w :: .newline :: rest)
  simp only [Takes] at hdots htargets ⊢
  simp [importFrom, hdots, isWord, word, htargets]

/-- The name of a module without a point in it. -/
lemma takes_dottedName {w : String} (hw : w ∉ keywords) (ts : List Token) :
    Pattern.dottedName.Takes (.word w :: .word "import" :: ts) 1 (.word "import" :: ts) := by
  have hmore : (collectWhile (tryMark ".") name).Takes (.word "import" :: ts) []
      (.word "import" :: ts) := takes_collectWhile_nil (by simp [tryMark])
  simp only [Takes] at hmore ⊢
  simp [Pattern.dottedName, hw, hmore]

/-- Names that are imported from a module of the package. -/
lemma takes_importFrom_group {source attr : String} {attrs : List String}
    (hsource : source ∉ keywords) (hattrs : ∀ w ∈ attr :: attrs, w ∉ keywords) : importFrom.Takes
    (.mark "." :: .word source :: .word "import" :: .mark "(" ::
      ((attr :: attrs).flatMap Index.attributeTokens ++ .mark ")" :: .newline :: rest)) ()
    (.newline :: rest) := by
  have hclose : (aliased name).run (.ofTokens (.mark ")" :: .newline :: rest)) = none := by
    simp [aliased]
  have hnames : (commaList (aliased name)).Takes
      ((attr :: attrs).flatMap Index.attributeTokens ++ .mark ")" :: .newline :: rest)
      ((attr :: attrs).map fun _ => (), true) (.mark ")" :: .newline :: rest) :=
    takes_commaList (fun w hw _ => (takes_aliased (hattrs w hw)).1) hclose
  have htargets : importTargets.Takes (.mark "(" ::
      ((attr :: attrs).flatMap Index.attributeTokens ++ .mark ")" :: .newline :: rest)) ()
      (.newline :: rest) := by
    simp only [Takes] at hnames ⊢
    simp [importTargets, tryMark, mark, hnames, -List.flatMap_cons]
  have hmodule := takes_dottedName hsource (.mark "(" ::
    ((attr :: attrs).flatMap Index.attributeTokens ++ .mark ")" :: .newline :: rest))
  have hne : source ≠ "import" := fun h => hsource (h ▸ by decide)
  have hdots := takes_dots source (.word "import" :: .mark "(" ::
    ((attr :: attrs).flatMap Index.attributeTokens ++ .mark ")" :: .newline :: rest))
  simp only [Takes] at hdots hmodule htargets ⊢
  simp [importFrom, hdots, isWord, word, hne, hmodule, htargets, -List.flatMap_cons]

namespace Context

variable {g : Statement.Context} {ts : List Token}

/-- A line with one simple statement. -/
lemma takes_simpleLine {x : Stmt} (h : g.simple.Takes ts x (.newline :: rest)) :
    g.simpleLine.Takes ts [x] rest := by
  have hline : (separated (mark ";") g.simple).Takes ts [x] (.newline :: rest) :=
    takes_separated h (by simp [mark])
  simp only [Takes] at hline ⊢
  simp [simpleLine, hline, tryMark]

/-- A line that begins with none of the words of other statements is made of simple ones. -/
lemma takes_statement {w : String} {xs : List Stmt}
    (hw : w ∉ ["def", "class", "if", "while", "try", "for", "with", "async", "match"])
    (h : g.simpleLine.Takes (.word w :: ts) xs rest) :
    g.statement.Takes (.word w :: ts) xs rest := by
  simp only [List.mem_cons, List.not_mem_nil, or_false, not_or] at hw
  obtain ⟨h₁, h₂, h₃, h₄, h₅, h₆, h₇, h₈, h₉⟩ := hw
  have hhead : (attempt g.matchHead).Takes (.word w :: ts) none (.word w :: ts) := by
    simp [Takes, matchHead, word, h₉]
  simp only [Takes] at h hhead ⊢
  simp [statement, isMark, isWord, tryWord, hhead, h, h₁, h₂, h₃, h₄, h₅, h₆, h₇, h₈, -run_attempt]

/-- An import from a module as a line. -/
lemma takes_statement_from (h : importFrom.Takes ts () (.newline :: rest)) :
    g.statement.Takes (.word "from" :: ts) [.other] rest := by
  have hsimple : g.simple.Takes (.word "from" :: ts) .other (.newline :: rest) := by
    simp only [Takes] at h ⊢
    simp [simple, keywordStatement?, h]
  exact takes_statement (by decide) (takes_simpleLine hsimple)

/-- An atom by itself is a value. -/
lemma takes_value {inner : Expression.Context} {e : Expr} {t : Token}
    (hself : g.expression.self .expression = inner.fullExpression)
    (h : inner.atom.Takes ts e (t :: rest)) (hts : Expression.Context.BeginsOperand ts)
    (ht : t = .newline ∨ t = .mark "=") : g.value.Takes ts e (t :: rest) := by
  have hvalue := Expression.Context.takes_starExpressions hself h hts ⟨t, rest, rfl, ht⟩
  have hyield : (isWord "yield").run (.ofTokens ts) = some (false, .ofTokens ts) := by
    obtain ⟨u, more, rfl, rfl | ⟨value, rfl⟩ | ⟨w, hw, rfl⟩⟩ := hts
    · simp [isWord]
    · simp [isWord]
    · have hne : w ≠ "yield" := fun heq => hw (heq ▸ by decide)
      simp [isWord, hne]
  simp only [Takes] at hvalue ⊢
  simp [value, hyield, hvalue]

/-- The listing as a line. -/
lemma takes_statement_listing (outer inner : Expression.Context)
    (houter : g.expression.self .expression = outer.fullExpression)
    (hinner : outer.self .expression = inner.fullExpression) (names : List String) :
    g.statement.Takes (Index.listingTokens names ++ rest)
      [.assignment [.name listingName] (.list (names.map .text))] rest := by
  have htokens : Index.listingTokens names ++ rest = .word listingName :: .mark "=" :: .mark "[" ::
      (names.flatMap Index.entryTokens ++ .mark "]" :: .newline :: rest) := by
    simp [Index.listingTokens]
  have hname (ts : List Token) :
      outer.atom.Takes (.word listingName :: ts) (.name listingName) ts :=
    Expression.Context.takes_atom_name (w := listingName) (by decide)
  have htarget (ts : List Token) : g.value.Takes (.word listingName :: .mark "=" :: ts)
      (.name listingName) (.mark "=" :: ts) :=
    takes_value houter (hname _) ⟨_, _, rfl, Or.inr (Or.inr ⟨_, by decide, rfl⟩)⟩ (Or.inr rfl)
  have hvalue : g.value.Takes (.mark "[" ::
      (names.flatMap Index.entryTokens ++ .mark "]" :: .newline :: rest))
      (.list (names.map .text)) (.newline :: rest) :=
    takes_value houter (Expression.Context.takes_atom_list hinner names)
      ⟨_, _, rfl, Or.inl rfl⟩ (Or.inl rfl)
  have hsimple : g.simple.Takes (Index.listingTokens names ++ rest)
      (.assignment [.name listingName] (.list (names.map .text))) (.newline :: rest) := by
    have hkeyword : g.keywordStatement? listingName = none := rfl
    simp only [Takes] at htarget hvalue ⊢
    rw [htokens]
    simp [simple, hkeyword, expressionStatement, htarget, tryMark, Expr.isStarTarget, Expr.isTarget,
      assignmentUpTo, hvalue]
  rw [htokens] at hsimple ⊢
  exact takes_statement (by decide) (takes_simpleLine hsimple)

/-- Statements that take a line each, up to the end of the source. -/
lemma takes_statements {lines : List (List Token × Stmt)}
    (h : ∀ line ∈ lines, (∃ w more, line.1 = .word w :: more) ∧
      ∀ rest, g.statement.Takes (line.1 ++ rest) [line.2] rest) :
    g.statements.Takes (lines.flatMap Prod.fst) (lines.map Prod.snd) [] := by
  let goesOn : Parser Bool := do return ! ((← isFinished) || (← isAhead 0 .dedent))
  have hrepeats : (collectWhile goesOn g.statement).Takes (lines.flatMap Prod.fst)
      (lines.map fun line => [line.2]) [] := by
    refine Repeats.takes ?_
    induction lines with
    | nil => exact .stop (by simp [Takes, goesOn])
    | cons line lines ih =>
      obtain ⟨⟨w, more, hline⟩, hstatement⟩ := h line (by simp)
      have hrest := ih fun other hother => h other (List.mem_cons_of_mem _ hother)
      refine .step ?_ (by simp [hline]) hrest
      have hfirst := hstatement (lines.flatMap Prod.fst)
      rw [hline] at hfirst
      simp only [Takes] at hfirst ⊢
      simp_all [goesOn]
  have hflatten : (lines.map fun line => [line.2]).flatten = lines.map Prod.snd := by
    clear h hrepeats
    induction lines <;> simp_all
  rw [← hflatten]
  simp only [Takes] at hrepeats ⊢
  simp only [statements, StateT.run_bind]
  exact (congrArg (·.bind fun x => some (x.1.flatten, x.2)) hrepeats :)

end Context

end Statement

/-- A text can stand for a name: it is an identifier and no keyword. -/
def isProperName (name : String) : Bool := Unicode.isIdentifier name.toList && name ∉ keywords

/-- A name is proper if it is an identifier and no keyword. -/
lemma isProperName_iff {name : String} : isProperName name = true ↔
    Unicode.isIdentifier name.toList = true ∧ name ∉ keywords := by
  simp [isProperName]

example : isProperName "module_2" = true ∧ isProperName "my-mod" = false ∧
    isProperName "import" = false := by
  decide +kernel

end PackageIndex.Source

namespace PackageIndex.Index

open Source Source.Parser

variable {statements : List Statement} {sort : Bool}

/-! ## Whole indexes -/

/-- The lines of an index as tokens and statements. -/
def statementLines (statements : List Statement) (sort : Bool) : List (List Token × Stmt) :=
  (imports statements sort).map (fun name => (importTokens name, Stmt.other)) ++
    (groups statements sort).map (fun group => (groupTokens group, Stmt.other)) ++
    [(listingTokens (listing statements sort),
      Stmt.assignment [.name listingName] (.list ((listing statements sort).map .text)))]

/-- The tree of an index: imports, and the assignment of the listing. -/
def tree (statements : List Statement) (sort : Bool) : Tree :=
  .module ((statementLines statements sort).map Prod.snd)

/-- The characters of words, and those between the names in an index. -/
def isIndexChar (c : Char) : Bool :=
  isWordChar c || c ∈ [' ', '.', '(', ')', '[', ']', '"', ',', '=', '\n']

/-- The text of an index holds words and what stands between them. -/
lemma isIndexChar_of_mem_render
    (h : ∀ x ∈ statements, ∀ name ∈ x.names, Unicode.isIdentifier name.toList = true) :
    ∀ c ∈ (render statements sort).toList, isIndexChar c = true := by
  have hname {name : String} (hname : Unicode.isIdentifier name.toList = true) :
      name.toList.all isIndexChar = true := by
    refine List.all_eq_true.2 fun c hc => ?_
    rw [isIndexChar, (isWord_of_isIdentifier hname).2 c hc, Bool.true_or]
  have himports : (imports statements sort).all (fun name => name.toList.all isIndexChar) = true :=
    List.all_eq_true.2 fun name hmem => hname (forall_mem_imports h name hmem)
  have hgroups : (groups statements sort).all (fun group => group.1.toList.all isIndexChar &&
      group.2.all fun attr => attr.toList.all isIndexChar) = true := by
    refine List.all_eq_true.2 fun group hmem => ?_
    obtain ⟨hsource, hattrs⟩ := forall_mem_groups h group hmem
    rw [hname hsource, Bool.true_and]
    exact List.all_eq_true.2 fun attr hattr => hname (hattrs attr hattr)
  have hlisting : (listing statements sort).all (fun name => name.toList.all isIndexChar) = true :=
    List.all_eq_true.2 fun name hmem => hname (forall_mem_listing h name hmem)
  have hlines : (lineChars (lines statements sort)).all isIndexChar = true := by
    have hliterals : ["from . import ", "from .", " import (", "    ", ",", ")", "__all__ = [",
        "    \"", "\",", "]"].all (·.toList.all isIndexChar) = true := by decide
    have hend : isIndexChar '\n' = true := by decide
    simp only [List.all_cons, List.all_nil, Bool.and_true, Bool.and_eq_true] at hliterals
    simp only [lineChars, lines, importLine, groupLines, listingLine, List.all_append,
      List.flatMap_append, List.flatMap_map, List.flatMap_assoc, List.flatMap_cons,
      List.flatMap_nil, List.all_flatMap, List.all_cons, List.all_nil, String.toList_append,
      String.toList_empty, hliterals, hend, Bool.and_true, Bool.true_and, himports, hgroups,
      hlisting]
  rw [render, toList_unlines]
  exact List.all_eq_true.1 hlines

/-- If all names in an index are identifiers and none is a keyword, its text is a module in every
version. -/
theorem ofChars?_render (minor : ℕ)
    (h : ∀ x ∈ statements, ∀ name ∈ x.names, isProperName name = true) :
    Tree.ofChars? minor (render statements sort).toList = some (tree statements sort) := by
  have hidentifier : ∀ x ∈ statements, ∀ name ∈ x.names,
      Unicode.isIdentifier name.toList = true := fun x hx name hname =>
    (isProperName_iff.1 (h x hx name hname)).1
  have hkeyword : ∀ x ∈ statements, ∀ name ∈ x.names, name ∉ keywords := fun x hx name hname =>
    (isProperName_iff.1 (h x hx name hname)).2
  have hzero : '\x00' ∉ (render statements sort).toList := fun hc =>
    absurd (isIndexChar_of_mem_render hidentifier _ hc) (by decide)
  -- the parser may go two rules deep at least: a list within an assignment needs no more
  obtain ⟨depth, hdepth⟩ : ∃ depth, 2 * (render statements sort).toList.length + 16 = depth + 2 :=
    ⟨_, rfl⟩
  have hlines : ∀ line ∈ statementLines statements sort,
      (∃ w more, line.1 = .word w :: more) ∧ ∀ rest,
        (Statement.context minor (depth + 2) (maxIndents + 1)).statement.Takes (line.1 ++ rest)
          [line.2] rest := by
    intro line hline
    simp only [statementLines, List.mem_append, List.mem_map, List.mem_singleton] at hline
    obtain (⟨name, hname, rfl⟩ | ⟨group, hgroup, rfl⟩) | rfl := hline
    · refine ⟨⟨_, _, rfl⟩, fun rest => ?_⟩
      exact Statement.Context.takes_statement_from (Statement.takes_importFrom_module
        (forall_mem_imports hkeyword name hname))
    · refine ⟨⟨_, _, rfl⟩, fun rest => ?_⟩
      obtain ⟨hsource, hattrs⟩ := forall_mem_groups hkeyword group hgroup
      obtain ⟨attr, attrs, hgroup⟩ := List.exists_cons_of_ne_nil (mem_groups hgroup).1
      have hrest : groupTokens group ++ rest = .word "from" :: .mark "." :: .word group.1 ::
          .word "import" :: .mark "(" ::
            ((attr :: attrs).flatMap attributeTokens ++ .mark ")" :: .newline :: rest) := by
        simp [groupTokens, hgroup]
      rw [hgroup] at hattrs
      rw [hrest]
      exact Statement.Context.takes_statement_from (Statement.takes_importFrom_group hsource hattrs)
    · refine ⟨⟨_, _, rfl⟩, fun rest => ?_⟩
      exact Statement.Context.takes_statement_listing ⟨Expression.parse minor (depth + 1), minor⟩
        ⟨Expression.parse minor depth, minor⟩ rfl rfl _
  have htokens : (statementLines statements sort).flatMap Prod.fst = tokens statements sort := by
    simp [statementLines, tokens, List.flatMap_map]
  have hparse := Statement.Context.takes_statements hlines
  rw [htokens, Takes] at hparse
  rw [Tree.ofChars?, tokens_render hidentifier]
  simp [hzero, hdepth, parseAll, hparse]
  rfl

end PackageIndex.Index
