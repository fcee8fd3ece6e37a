import PackageIndex.Source.Statement

/-!
# Reading a module

A source text is a module of some version of the language if its tokens are statements from the
first to the last.
-/

namespace PackageIndex.Source

/-- The statements of a source in the grammar of a minor version.  Everything nested takes a
character of its own at least, and blocks are no deeper than the lexer lets them be; so the bounds
on the depth are never met. -/
def Tree.ofChars? (minor : Nat) (cs : List Char) : Option Tree := do
  guard ('\x00' ∉ cs)
  let ts ← tokens cs
  let grammar := Statement.context minor (2 * cs.length + 16) (maxIndents + 1)
  .module <$> Parser.parseAll grammar.statements ts

end PackageIndex.Source
