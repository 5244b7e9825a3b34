import QueryFilter.Sql.Token

/-!
# The text of a statement

A name is written between quotation marks, with every such mark inside it doubled. Parameters are
marked in the text, by their number where the dialect numbers them, and listed beside it in the
same order.
-/

namespace QueryFilter.Sql

inductive Dialect where
  | sqlite
  | postgres
  | mysql
  deriving DecidableEq, Repr, Inhabited

namespace Dialect

def quote : Dialect → Char
  | sqlite | postgres => '"'
  | mysql => Char.ofNat 0x60

/-- The mark of the `n`-th parameter. -/
def placeholder (dialect : Dialect) (n : Nat) : List Char :=
  match dialect with
  | sqlite | mysql => ['?']
  | postgres => '$' :: Nat.toDigits 10 n

end Dialect

/-- A name with every `quote` in it doubled. -/
def doubled (quote : Char) : List Char → List Char
  | [] => []
  | c :: rest => if c = quote then c :: c :: doubled quote rest else c :: doubled quote rest

def quotedName (quote : Char) (name : List Char) : List Char :=
  quote :: doubled quote name ++ [quote]

/-- The text of tokens of which the first parameter is the `n`-th of the statement. -/
def renderFrom (dialect : Dialect) : Nat → List Token → List Char
  | _, [] => []
  | n, .fixed text :: rest => text.toList ++ renderFrom dialect n rest
  | n, .name name :: rest => quotedName dialect.quote name.toList ++ renderFrom dialect n rest
  | n, .parameter _ :: rest => dialect.placeholder n ++ renderFrom dialect (n + 1) rest

def Token.parameter? : Token → Option Parameter
  | parameter value => some value
  | fixed _ | name _ => none

namespace Select

def text (select : Select) (dialect : Dialect) : String :=
  String.ofList (renderFrom dialect 1 select.tokens)

/-- The parameters of the statement, in the order in which the text marks them. -/
def parameters (select : Select) : List Parameter :=
  select.tokens.filterMap Token.parameter?

/-- What a database is given: the text of a statement and its parameters. -/
def build (select : Select) (dialect : Dialect) : String × List Parameter :=
  (select.text dialect, select.parameters)

end Select

end QueryFilter.Sql
