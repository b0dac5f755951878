/-!
# RemoteQuery.Text.Quoted

Quoting by doubling: inside quotes, the quote character is written twice.

* `undouble_double` — doubled text is read back;
* `enclosed?_enclose` — enclosed text is read back.
-/

namespace RemoteQuery.Text

/-- Every `q` written twice. -/
def double (q : Char) : List Char → List Char
  | [] => []
  | c :: cs => if c = q then q :: q :: double q cs else c :: double q cs

/-- Every pair `qq`, taken from the left, written once. -/
def undouble (q : Char) : List Char → List Char
  | [] => []
  | [c] => [c]
  | c :: d :: cs =>
    if c = q ∧ d = q then q :: undouble q cs else c :: undouble q (d :: cs)

/-- A character written twice is read once, and all else is kept. -/
theorem undouble_double (q : Char) (s : List Char) : undouble q (double q s) = s := by
  induction s with
  | nil => rfl
  | cons c s ih =>
    rw [double]
    split
    next h => rw [undouble, if_pos ⟨rfl, rfl⟩, ih, h]
    next h =>
      cases hs : double q s with
      | nil => rw [hs] at ih; rw [← ih]; rfl
      | cons d ds =>
        rw [undouble, if_neg fun hc => h hc.1, ← hs, ih]

/-- Text without quotes is written as it is. -/
theorem double_of_notMem {q : Char} {s : List Char} (h : q ∉ s) : double q s = s := by
  induction s with
  | nil => rfl
  | cons c s ih =>
    rw [List.mem_cons, not_or] at h
    rw [double, if_neg (Ne.symm h.1), ih h.2]

/-- `s` between `opening` and `closing`. -/
def enclose (opening closing : Char) (s : List Char) : String :=
  String.ofList (opening :: s ++ [closing])

/-- What stands between `opening` at the start and `closing` at the end, if both are there. -/
def enclosed? (opening closing : Char) (s : String) : Option (List Char) :=
  match s.toList with
  | [] => none
  | c :: cs =>
    if c = opening ∧ cs.getLast? = some closing then some cs.dropLast else none

/-- What was enclosed stands between the ends. -/
theorem enclosed?_enclose (opening closing : Char) (s : List Char) :
    enclosed? opening closing (enclose opening closing s) = some s := by
  simp [enclosed?, enclose]

/-- A single-quoted string literal; embedded quotes are doubled. -/
def stringLiteral (s : String) : String :=
  enclose '\'' '\'' (double '\'' s.toList)

end RemoteQuery.Text
