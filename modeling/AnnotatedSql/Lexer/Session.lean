import AnnotatedSql.Lexer

/-!
# Reading sessions

A session asks one lexer for tokens in several steps.  A step reads no further than it has to, and the lexer stays
usable after its last line, when there is nothing more to hand out.
-/

namespace AnnotatedSql.Lexer

inductive Step where
  | next
  /-- The token behind the next `n`. -/
  | nth (n : Nat)
  /-- The next `n` tokens. -/
  | take (n : Nat)
  | rest
  /-- All tokens that are left; the session ends. -/
  | collect
deriving DecidableEq, Repr

inductive Reply where
  | one (token? : Option Token)
  | many (tokens : List Token)
deriving DecidableEq, Repr

def reply (l : Lexer) : Step → Logged (Reply × Lexer)
  | .next => Prod.map .one id <$> l.next
  | .nth n => Prod.map .one id <$> l.nth n
  | .take n => Prod.map .many id <$> l.take n
  | .rest | .collect => Prod.map .many id <$> l.rest

/-- Answers the requests in turn, up to the one that ends the session. -/
def session (l : Lexer) : List Step → Logged (List Reply)
  | [] => pure []
  | .collect :: _ => (fun (answer, _) => [answer]) <$> l.reply .collect
  | step :: steps => do
    let (answer, l) ← l.reply step
    (answer :: ·) <$> l.session steps

end AnnotatedSql.Lexer
