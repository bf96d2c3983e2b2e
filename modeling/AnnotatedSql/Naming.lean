import AnnotatedSql.Directive

/-!
# Names

A segment that is not blank opens with a name, its first word.  A directive word may follow, and the rest is what
remains.  Parts that are missing are absent tokens, which still say where the part would stand: a missing keyword
and the rest share a position.
-/

namespace AnnotatedSql

/-- A name, an optional directive word and what follows. -/
structure Naming where
  name : Token
  keyword : Token
  rest : Token
deriving DecidableEq, Repr

namespace Naming

/-- Takes apart a segment that is not blank. -/
def ofSegment? (config : Config) (token : Token) : Option Naming := do
  let segment := (← token.stretch?).trim
  let width := Words.wordWidth segment.text
  guard (width ≠ 0)
  let name := (segment.take width).toToken .name
  let follow := (segment.drop width).trimStart
  match Words.directiveWidth? config.sigil follow.text with
  | some width =>
    return ⟨name, (follow.take width).toToken .keyword, (follow.drop width).trimStart.toOptionalToken .segment⟩
  | none => return ⟨name, ⟨.keyword, none, follow.position⟩, follow.toOptionalToken .segment⟩

end Naming

/-- The name that a segment opens with; a blank segment is recorded. -/
def Config.readName (c : Config) (token : Token) : Logged (Option Naming) :=
  token.reportMiss .noName (Naming.ofSegment? c token)

end AnnotatedSql
