import TeenyTiny.Token.Keyword

/-!
# Kinds of tokens
-/

namespace TeenyTiny

/-- What sort of token a lexeme is. -/
inductive Kind where
  | eof
  | newline
  | number
  | ident
  | string
  | keyword (word : Keyword)
  | eq
  | plus
  | minus
  | star
  | slash
  | eqEq
  | bangEq
  | lt
  | ltEq
  | gt
  | gtEq
  deriving DecidableEq, Repr

/-- The three families of kinds. -/
inductive Band where
  | structural
  | keyword
  | operator
  deriving DecidableEq, Repr

/-- The name of a family in listings of tokens. -/
def Band.name : Band → String
  | .structural => "Structural"
  | .keyword => "Keyword"
  | .operator => "Operator"

namespace Kind

def all : List Kind :=
  [eof, newline, number, ident, string] ++ Keyword.all.map keyword ++
    [eq, plus, minus, star, slash, eqEq, bangEq, lt, ltEq, gt, gtEq]

def band : Kind → Band
  | eof | newline | number | ident | string => .structural
  | keyword _ => .keyword
  | eq | plus | minus | star | slash => .operator
  | eqEq | bangEq | lt | ltEq | gt | gtEq => .operator

/-- Whether a kind is one of the six comparison operators. -/
def isComparison : Kind → Bool
  | eqEq | bangEq | lt | ltEq | gt | gtEq => true
  | _ => false

/-- The spelling of an operator. -/
def symbol : Kind → String
  | eq => "="
  | plus => "+"
  | minus => "-"
  | star => "*"
  | slash => "/"
  | eqEq => "=="
  | bangEq => "!="
  | lt => "<"
  | ltEq => "<="
  | gt => ">"
  | gtEq => ">="
  | eof | newline | number | ident | string | keyword _ => ""

/-- The name of a kind in listings of tokens. -/
def name : Kind → String
  | eof => "Eof"
  | newline => "Newline"
  | number => "Number"
  | ident => "Ident"
  | string => "String"
  | keyword word => "Keyword(" ++ word.name ++ ")"
  | eq => "Eq"
  | plus => "Plus"
  | minus => "Minus"
  | star => "Star"
  | slash => "Slash"
  | eqEq => "EqEq"
  | bangEq => "BangEq"
  | lt => "Lt"
  | ltEq => "LtEq"
  | gt => "Gt"
  | gtEq => "GtEq"

def ofName? (name : String) : Option Kind :=
  all.find? fun kind => kind.name = name

/-- How messages speak of a token of this kind. -/
def description : Kind → String
  | eof => "end of file"
  | newline => "newline"
  | number => "number"
  | ident => "identifier"
  | string => "string literal"
  | keyword word => word.text
  | eq => "'='"
  | plus => "'+'"
  | minus => "'-'"
  | star => "'*'"
  | slash => "'/'"
  | eqEq => "'=='"
  | bangEq => "'!='"
  | lt => "'<'"
  | ltEq => "'<='"
  | gt => "'>'"
  | gtEq => "'>='"

end Kind

end TeenyTiny
