import LivePreview.Code.Expr

/-!
# Tokens of the target language

A token is what remains of a piece of program text once blanks, comments and continued lines are
gone. Indentation has become a pair of tokens around a block. Names are kept as written.
-/

namespace LivePreview.Code

inductive Token where
  | name (text : String)
  | keyword (text : String)
  | constant (value : Constant)
  /-- A text or byte literal: the letters before its quotes, and what stands between them. -/
  | literal (marks : List Char) (body : List Char)
  | symbol (text : String)
  | newline
  | indent
  | dedent
  deriving DecidableEq, Repr

end LivePreview.Code
