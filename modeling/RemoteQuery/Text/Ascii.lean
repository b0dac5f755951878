/-!
# RemoteQuery.Text.Ascii

Comparisons of names that ignore the case of ASCII letters, and tests on the
two ends of a text.  Characters beyond ASCII have no case here.
-/

namespace RemoteQuery.Text

/-- The two texts differ at most in the case of ASCII letters. -/
def sameWord (a b : String) : Bool :=
  a.toLower == b.toLower

/-- `s` begins with `front`. -/
def beginsWith (s front : String) : Bool :=
  front.toList.isPrefixOf s.toList

/-- `s` ends with `back`. -/
def endsWith (s back : String) : Bool :=
  back.toList.isSuffixOf s.toList

end RemoteQuery.Text
