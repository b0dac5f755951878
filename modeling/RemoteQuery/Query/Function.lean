import RemoteQuery.Vocabulary

/-!
# RemoteQuery.Query.Function

The scalar and aggregate functions a query can call, each with its generic name
and the numbers of arguments it takes.
-/

namespace RemoteQuery

/-- The accepted numbers of arguments. -/
structure Arity where
  least : Nat
  /-- No upper bound when absent. -/
  most : Option Nat
deriving DecidableEq

namespace Arity

/-- Exactly `n` arguments. -/
def exactly (n : Nat) : Arity := ⟨n, some n⟩

/-- Between `a` and `b` arguments. -/
def between (a b : Nat) : Arity := ⟨a, some b⟩

/-- At least `n` arguments. -/
def atLeast (n : Nat) : Arity := ⟨n, none⟩

/-- Whether `n` arguments are accepted. -/
def admits (a : Arity) (n : Nat) : Bool :=
  a.least ≤ n && a.most.all (n ≤ ·)

/-- The accepted numbers in words. -/
def text (a : Arity) : String :=
  match a.most with
  | none => "at least " ++ toString a.least
  | some m => if m = a.least then toString a.least else toString a.least ++ " to " ++ toString m

end Arity

/-- Scalar functions and arithmetic operators. -/
inductive ScalarFunction where
  | add | sub | mult | floatDiv | neg
  | div | mod | abs | ceil | floor | round | trunc | power | sqrt | sign | ln | exp
  | bitAnd | bitOr | bitXor
  | concat | lower | upper | length | substr | trim | ltrim | rtrim | replace | lpad | rpad | instr
  | addDays | addWeeks | addMonths | addYears | addHours | addMinutes | addSeconds
  | currentDate | currentTimestamp | year | month | day
deriving DecidableEq

namespace ScalarFunction

/-- The generic name. -/
def name : ScalarFunction → String
  | add => "ADD"
  | sub => "SUB"
  | mult => "MULT"
  | floatDiv => "FLOAT_DIV"
  | neg => "NEG"
  | div => "DIV"
  | mod => "MOD"
  | abs => "ABS"
  | ceil => "CEIL"
  | floor => "FLOOR"
  | round => "ROUND"
  | trunc => "TRUNC"
  | power => "POWER"
  | sqrt => "SQRT"
  | sign => "SIGN"
  | ln => "LN"
  | exp => "EXP"
  | bitAnd => "BIT_AND"
  | bitOr => "BIT_OR"
  | bitXor => "BIT_XOR"
  | concat => "CONCAT"
  | lower => "LOWER"
  | upper => "UPPER"
  | length => "LENGTH"
  | substr => "SUBSTR"
  | trim => "TRIM"
  | ltrim => "LTRIM"
  | rtrim => "RTRIM"
  | replace => "REPLACE"
  | lpad => "LPAD"
  | rpad => "RPAD"
  | instr => "INSTR"
  | addDays => "ADD_DAYS"
  | addWeeks => "ADD_WEEKS"
  | addMonths => "ADD_MONTHS"
  | addYears => "ADD_YEARS"
  | addHours => "ADD_HOURS"
  | addMinutes => "ADD_MINUTES"
  | addSeconds => "ADD_SECONDS"
  | currentDate => "CURRENT_DATE"
  | currentTimestamp => "CURRENT_TIMESTAMP"
  | year => "YEAR"
  | month => "MONTH"
  | day => "DAY"

instance : Vocabulary ScalarFunction where
  members :=
    [add, sub, mult, floatDiv, neg, div, mod, abs, ceil, floor, round, trunc, power, sqrt, sign,
     ln, exp, bitAnd, bitOr, bitXor, concat, lower, upper, length, substr, trim, ltrim, rtrim,
     replace, lpad, rpad, instr, addDays, addWeeks, addMonths, addYears, addHours, addMinutes,
     addSeconds, currentDate, currentTimestamp, year, month, day]
  word := name
  mem_members a := by cases a <;> decide
  nodup_words := by decide +kernel

/-- The accepted numbers of arguments of the generic form. -/
def arity : ScalarFunction → Arity
  | currentDate | currentTimestamp => .exactly 0
  | neg | abs | ceil | floor | sqrt | sign | ln | exp | lower | upper | length
  | year | month | day => .exactly 1
  | round | trunc | trim | ltrim | rtrim => .between 1 2
  | substr | replace | lpad | rpad => .between 2 3
  | concat => .atLeast 1
  | add | sub | mult | floatDiv | div | mod | power | bitAnd | bitOr | bitXor | instr
  | addDays | addWeeks | addMonths | addYears | addHours | addMinutes | addSeconds => .exactly 2

/-- The symbol of the functions that are written as operators between their arguments. -/
def operator? : ScalarFunction → Option String
  | add => some "+"
  | sub => some "-"
  | mult => some "*"
  | floatDiv => some "/"
  | _ => none

/-- Whether the function is written as a bare word, without parentheses. -/
def isKeyword : ScalarFunction → Bool
  | currentDate | currentTimestamp => true
  | _ => false

end ScalarFunction

/-- Aggregate functions. -/
inductive AggregateFunction where
  | count | sum | min | max | avg | median | stddev | variance | groupConcat
deriving DecidableEq

namespace AggregateFunction

/-- The generic name. -/
def name : AggregateFunction → String
  | count => "COUNT"
  | sum => "SUM"
  | min => "MIN"
  | max => "MAX"
  | avg => "AVG"
  | median => "MEDIAN"
  | stddev => "STDDEV"
  | variance => "VARIANCE"
  | groupConcat => "GROUP_CONCAT"

instance : Vocabulary AggregateFunction where
  members := [count, sum, min, max, avg, median, stddev, variance, groupConcat]
  word := name
  mem_members a := by cases a <;> decide
  nodup_words := by decide +kernel

/-- The accepted numbers of arguments; `COUNT` without arguments counts rows. -/
def arity : AggregateFunction → Arity
  | count => .atLeast 0
  | _ => .exactly 1

end AggregateFunction

end RemoteQuery
