namespace RichText

/-- Unary and binary nodes share one set of operators. One in a place that has no use for it
evaluates to null. -/
inductive Op where
  | not | neg
  | add | sub | mul | div | rem | pow
  | concat
  | eq | ne | lt | le | gt | ge
  | and | or
  | coalesce
  | range
  | member
  deriving DecidableEq

def Op.symbol : Op → String
  | .not => "!"
  | .neg => "-"
  | .add => "+"
  | .sub => "-"
  | .mul => "*"
  | .div => "/"
  | .rem => "%"
  | .pow => "^"
  | .concat => "~"
  | .eq => "=="
  | .ne => "!="
  | .lt => "<"
  | .le => "<="
  | .gt => ">"
  | .ge => ">="
  | .and => "&&"
  | .or => "||"
  | .coalesce => "??"
  | .range => ".."
  | .member => "."

inductive Atom where
  | null
  | int (n : Int64)
  | float (x : Float)
  | bool (b : Bool)
  | str (s : String)
  | ident (name : String)

inductive Expr where
  | atom (a : Atom)
  | unary (op : Op) (operand : Expr)
  | binary (op : Op) (left right : Expr)
  | subscript (target key : Expr)
  | cond (test yes no : Expr)
  | substring (text : Expr) (lower upper : Option Expr)
  | array (items : List Expr)

namespace Expr

abbrev ident (name : String) : Expr := .atom (.ident name)

/-- `target.field`: an identifier on the right of a member operator names a field and is not
looked up. -/
abbrev field (target : Expr) (name : String) : Expr := .binary .member target (.ident name)

end Expr

end RichText
