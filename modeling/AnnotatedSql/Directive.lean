import AnnotatedSql.Config
import AnnotatedSql.Log
import AnnotatedSql.Stretch

/-!
# Directives

A directive is a directive word and the text after it.  It stands in a comment behind the marker, or opens a
segment.  In a comment the blanks after the word belong to neither part; in a segment everything after the word is
kept.  `readComment` and `readResult` also record the tokens that hold no directive.
-/

namespace AnnotatedSql

/-- A directive word and what follows it. -/
structure Directive where
  keyword : Token
  rest : Token
deriving DecidableEq, Repr

namespace Directive

/-- The directive of a comment that opens with the marker, blanks and a directive word.  The rest starts behind
the blanks after the word and is there even when nothing follows. -/
def ofComment? (config : Config) (token : Token) : Option Directive := do
  let comment ← token.stretch?
  guard (config.marker.toList.isPrefixOf comment.text)
  let body := (comment.drop config.marker.toList.length).trimStart
  let width ← Words.directiveWidth? config.sigil body.text
  return ⟨(body.take width).toToken .keyword, (body.drop width).trimStart.toToken .segment⟩

/-- The directive that a segment opens with, blanks at both ends of the segment aside.  The rest starts right
behind the word and is absent when nothing follows. -/
def ofSegment? (config : Config) (token : Token) : Option Directive := do
  let segment := (← token.stretch?).trim
  let width ← Words.directiveWidth? config.sigil segment.text
  return ⟨(segment.take width).toToken .keyword, (segment.drop width).toOptionalToken .segment⟩

end Directive

namespace Config

/-- The directive of a comment; a comment without one is recorded. -/
def readComment (c : Config) (token : Token) : Logged (Option Directive) :=
  token.reportMiss .noDirective (Directive.ofComment? c token)

/-- The directive that a segment opens with; a segment without one is recorded. -/
def readResult (c : Config) (token : Token) : Logged (Option Directive) :=
  token.reportMiss .noResult (Directive.ofSegment? c token)

end Config

end AnnotatedSql
