/-!
# RemoteQuery.Calls.Form

The forms a call can take, as rules from written arguments to text.  Dialects
choose among them.
-/

namespace RemoteQuery.Calls

/-- `NAME(a, b, ...)` -/
def call (name : String) (args : List String) : String :=
  name ++ "(" ++ ", ".intercalate args ++ ")"

/-- `(a op b op ...)` -/
def operatorChain (op : String) (args : List String) : String :=
  "(" ++ (" " ++ op ++ " ").intercalate args ++ ")"

/-- `-(a)`; the parentheses keep a negative operand from forming a comment. -/
def negate (args : List String) : String :=
  "-(" ++ ", ".intercalate args ++ ")"

/-- `TRIM(a)`, and with a set of characters `TRIM(chars FROM a)`. -/
def trimBoth : List String → String
  | [value, chars] => "TRIM(" ++ chars ++ " FROM " ++ value ++ ")"
  | args => call "TRIM" args

/-- A trim of one side: the named call, and with a set of characters
`TRIM(side chars FROM a)`. -/
def trimOneSide (name side : String) : List String → String
  | [value, chars] => "TRIM(" ++ side ++ " " ++ chars ++ " FROM " ++ value ++ ")"
  | args => call name args

/-- The operands converted to text, string literals left as they are: for targets whose
concatenation refuses or adds numbers. -/
def textArguments (convert : String → String) (args : List String) : List String :=
  args.map fun arg => if arg.toList.head? = some '\'' then arg else convert arg

/-- A call whose last argument may be left out and has a default. -/
def defaultedCall (name : String) (args : List String) (arity : Nat) (default : String) : String :=
  call name (if args.length < arity then args ++ [default] else args)

/-- A call of two arguments in the other order. -/
def reversedCall (name : String) : List String → String
  | [a, b] => call name [b, a]
  | args => call name args

/-- `EXTRACT(field FROM a)` -/
def extractField (field : String) (args : List String) : String :=
  "EXTRACT(" ++ field ++ " FROM " ++ ", ".intercalate args ++ ")"

/-- Integer division as a floored quotient of an integer type; the divisor is floored first on
request. -/
def floorQuotient (castType : String) (floorDivisor : Bool) : List String → String
  | [a, b] =>
    let divisor := if floorDivisor then "FLOOR(" ++ b ++ ")" else b
    "CAST(FLOOR(" ++ a ++ " / " ++ divisor ++ ") AS " ++ castType ++ ")"
  | args => call "DIV" args

/-- `CAST(a AS type)` -/
def cast (sql type : String) : String :=
  "CAST(" ++ sql ++ " AS " ++ type ++ ")"

end RemoteQuery.Calls
