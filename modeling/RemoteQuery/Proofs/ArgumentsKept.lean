import RemoteQuery.Proofs.AggregateFlavours
import RemoteQuery.Proofs.Forms
import RemoteQuery.Proofs.Promise

/-!
# RemoteQuery.Proofs.ArgumentsKept

No scalar call loses an argument, however a dialect writes it.  Arguments may
change places, stand between operators or get company; each of them is still
there, character by character.  Only the amount of a unit that a dialect lacks
may be multiplied at once, if it is an integer literal.

* `Calls.Holds` — a text holds every argument;
* `ShowsArguments` — the same up to a multiplied amount;
* `Dialect.scalarText_keeps` — every scalar call of every dialect shows its
  arguments.
-/

namespace RemoteQuery

open Calls

/-! ## texts in texts -/

namespace Text

variable {text part front back : String}

theorem Contains.refl (text : String) : Contains text text :=
  List.infix_rfl

theorem Contains.trans {inner : String} (h : Contains text part) (hinner : Contains part inner) :
    Contains text inner :=
  List.IsInfix.trans hinner h

theorem contains_append_left : Contains (front ++ back) front := by
  rw [Contains, String.toList_append]
  exact (List.prefix_append _ _).isInfix

theorem contains_append_right : Contains (front ++ back) back := by
  rw [Contains, String.toList_append]
  exact (List.suffix_append _ _).isInfix

theorem contains_intercalate {separator : String} {parts : List String} (h : part ∈ parts) :
    Contains (separator.intercalate parts) part := by
  induction parts with
  | nil => cases h
  | cons first rest ih =>
    cases rest with
    | nil =>
      rw [List.mem_singleton.1 h, String.intercalate_singleton]
      exact .refl first
    | cons second rest =>
      rw [String.intercalate_cons_cons, String.append_assoc]
      obtain rfl | h := List.mem_cons.1 h
      · exact contains_append_left
      · exact (contains_append_right.trans contains_append_right).trans (ih h)

end Text

/-- A piece holds its parts. -/
theorem Piece.contains_text {p : Piece} {part : String} (h : part ∈ contents [p]) :
    Text.Contains p.text part := by
  cases p with
  | part s =>
    rw [List.mem_singleton.1 h]
    exact .refl s
  | parts separator ss => exact Text.contains_intercalate (by simpa [contents] using h)
  | literal s =>
    rw [List.mem_singleton.1 h]
    exact .refl (Text.stringLiteral s)
  | fixed | quoted => cases h

/-- A template holds its parts. -/
theorem Piece.contains_join (ps : List Piece) {part : String} (h : part ∈ contents ps) :
    Text.Contains (join ps) part := by
  rw [Text.Contains, toList_join]
  induction ps with
  | nil => cases h
  | cons p ps ih =>
    rw [contents_cons] at h
    rw [List.flatMap_cons]
    obtain h | h := List.mem_append.1 h
    · exact List.IsInfix.trans (contains_text h) (List.prefix_append _ _).isInfix
    · exact (ih h).trans (List.suffix_append _ _).isInfix

/-! ## forms of calls -/

namespace Calls

/-- A text holds every one of the arguments. -/
def Holds (text : String) (args : List String) : Prop :=
  ∀ a ∈ args, Text.Contains text a

variable {name op : String} {args : List String}

theorem holds_join (ps : List Piece) (h : args ⊆ Piece.contents ps) : Holds (Piece.join ps) args :=
  fun _ ha => Piece.contains_join ps (h ha)

/-- A text holds what the texts in it hold. -/
theorem Holds.trans {text : String} {others : List String} (h : Holds text others)
    (hinner : ∀ a ∈ args, ∃ b ∈ others, Text.Contains b a) : Holds text args := by
  intro a ha
  obtain ⟨b, hb, hcontains⟩ := hinner a ha
  exact (h b hb).trans hcontains

theorem Holds.subset {text : String} {others : List String} (h : Holds text others)
    (hsub : args ⊆ others) : Holds text args :=
  fun a ha => h a (hsub ha)

@[simp] theorem holds_call : Holds (call name args) args :=
  holds_join [.part name, .fixed "(", .parts ", " args, .fixed ")"] (by simp [Piece.contents])

@[simp] theorem holds_operatorChain : Holds (operatorChain op args) args :=
  holds_join [.fixed "(", .parts (" " ++ op ++ " ") args, .fixed ")"] (by simp [Piece.contents])

@[simp] theorem holds_negate : Holds (negate args) args :=
  holds_join [.fixed "-(", .parts ", " args, .fixed ")"] (by simp [Piece.contents])

@[simp] theorem holds_extractField {field : String} : Holds (extractField field args) args :=
  holds_join [.fixed "EXTRACT(", .part field, .fixed " FROM ", .parts ", " args, .fixed ")"]
    (by simp [Piece.contents])

@[simp] theorem holds_trimBoth : Holds (trimBoth args) args := by
  unfold trimBoth
  split
  next value chars =>
    exact holds_join [.fixed "TRIM(", .part chars, .fixed " FROM ", .part value, .fixed ")"]
      (by simp [Piece.contents])
  next => exact holds_call

@[simp] theorem holds_trimOneSide {side : String} : Holds (trimOneSide name side args) args := by
  unfold trimOneSide
  split
  next value chars =>
    exact holds_join [.fixed "TRIM(", .part side, .fixed " ", .part chars, .fixed " FROM ",
      .part value, .fixed ")"] (by simp [Piece.contents])
  next => exact holds_call

@[simp] theorem holds_defaultedCall {arity : Nat} {default : String} :
    Holds (defaultedCall name args arity default) args := by
  unfold defaultedCall
  split
  · exact holds_call.subset (List.subset_append_left _ _)
  · exact holds_call

@[simp] theorem holds_reversedCall : Holds (reversedCall name args) args := by
  unfold reversedCall
  split
  · exact holds_call.subset (by simp)
  · exact holds_call

@[simp] theorem holds_floorQuotient {type : String} {floorDivisor : Bool} :
    Holds (floorQuotient type floorDivisor args) args := by
  unfold floorQuotient
  split
  next a b =>
    have hdivisor : Text.Contains (if floorDivisor then "FLOOR(" ++ b ++ ")" else b) b := by
      split
      · exact Text.contains_append_left.trans Text.contains_append_right
      · exact .refl b
    dsimp only
    generalize (if floorDivisor then "FLOOR(" ++ b ++ ")" else b) = divisor at hdivisor ⊢
    have hparts : Holds _ [a, divisor] := holds_join [.fixed "CAST(FLOOR(", .part a, .fixed " / ",
      .part divisor, .fixed ") AS ", .part type, .fixed ")"] (by simp [Piece.contents])
    exact hparts.trans (by simp [hdivisor, Text.Contains.refl])
  next => exact holds_call

/-- Arguments that are converted to text are still there. -/
theorem Holds.of_textArguments {text : String} {convert : String → String}
    (hconvert : ∀ a, Text.Contains (convert a) a) (h : Holds text (textArguments convert args)) :
    Holds text args := by
  refine h.trans fun a ha => ⟨_, List.mem_map_of_mem ha, ?_⟩
  split
  · exact .refl a
  · exact hconvert a

theorem contains_cast (sql type : String) : Text.Contains (cast sql type) sql :=
  Piece.contains_join [.fixed "CAST(", .part sql, .fixed " AS ", .part type, .fixed ")"]
    (by simp [Piece.contents])

/-! ## dates -/

/-- A text shows an amount: as it is or, if it is an integer literal, multiplied by the factor. -/
def ShowsAmount (factor : Option Int) (text amount : String) : Prop :=
  Text.Contains text amount ∨ ∃ k n, factor = some k ∧ integerLiteral? amount = some n ∧
    Text.Contains text (toString (k * n))

theorem showsAmount_multiplied {factor : Option Int} {k : Int} {text amount : String}
    (hfactor : factor = some k) (h : Text.Contains text (multiplied k amount)) :
    ShowsAmount factor text amount := by
  have hproduct : Text.Contains ("(" ++ toString k ++ " * " ++ amount ++ ")") amount :=
    Piece.contains_join [.fixed "(", .part (toString k), .fixed " * ", .part amount, .fixed ")"]
      (by simp [Piece.contents])
  unfold multiplied at h
  split at h
  next n hn =>
    split at h
    · exact .inr ⟨k, n, hfactor, hn, h⟩
    · exact .inl (h.trans hproduct)
  next => exact .inl (h.trans hproduct)

/-- The function that adds amounts of a unit. -/
def DateUnit.function : DateUnit → ScalarFunction
  | second => .addSeconds
  | minute => .addMinutes
  | hour => .addHours
  | day => .addDays
  | week => .addWeeks
  | month => .addMonths
  | year => .addYears

theorem DateUnit.eq_function_of_unit {f : ScalarFunction} {unit : DateUnit}
    (h : ofFunction? f = some unit) : f = unit.function := by
  cases f <;> cases h <;> rfl

namespace DateAdd

variable {a : DateAdd} {factor : Option Int}

/-- A text shows the value of a sum, and its amount. -/
structure ShownBy (factor : Option Int) (a : DateAdd) (text : String) : Prop where
  value : Text.Contains text a.value
  amount : ShowsAmount factor text a.amount

theorem shownBy_of_holds {text : String} (h : Holds text [a.value, a.amount]) :
    a.ShownBy factor text where
  value := h a.value (by simp)
  amount := .inl (h a.amount (by simp))

theorem shownBy_of_multiplied {k : Int} {text : String} (hfactor : factor = some k)
    (h : Holds text [a.value, multiplied k a.amount]) : a.ShownBy factor text where
  value := h a.value (by simp)
  amount := showsAmount_multiplied hfactor (h (multiplied k a.amount) (by simp))

/-- Amounts of a unit other than weeks are left as they are. -/
theorem showsAmount_withoutWeeks {text : String} (hweek : a.unit = .week → factor = some 7)
    (h : Text.Contains text a.withoutWeeks.2) : ShowsAmount factor text a.amount := by
  unfold withoutWeeks at h
  split at h
  next hunit => exact showsAmount_multiplied (hweek hunit) h
  next => exact .inl h

theorem shownBy_durationSum (hweek : a.unit = .week → factor = some 7) :
    a.ShownBy factor a.durationSum := by
  have hparts : Holds a.durationSum [a.value, a.labeledAmount] :=
    holds_join [.fixed "(", .part a.value, .fixed " + ", .part a.labeledAmount, .fixed " ",
      .part a.withoutWeeks.1.keyword, .fixed "S)"] (by simp [Piece.contents])
  have hamount : Text.Contains a.labeledAmount a.withoutWeeks.2 := by
    unfold labeledAmount
    dsimp only
    split
    · exact .refl _
    · exact Text.contains_append_left.trans Text.contains_append_right
  exact ⟨hparts _ (by simp), showsAmount_withoutWeeks hweek ((hparts _ (by simp)).trans hamount)⟩

theorem shownBy_intervalLiteral {precision : String} (hweek : a.unit = .week → factor = some 7) :
    a.ShownBy factor (a.intervalLiteral precision) := by
  suffices hparts : Holds (a.intervalLiteral precision) [a.value, a.withoutWeeks.2] from
    ⟨hparts _ (by simp), showsAmount_withoutWeeks hweek (hparts _ (by simp))⟩
  unfold intervalLiteral
  generalize a.withoutWeeks = weeks
  obtain ⟨unit, amount⟩ := weeks
  dsimp only
  split
  · have hinterval : Text.Contains ("INTERVAL '" ++ amount ++ "' " ++ unit.keyword ++ precision)
        amount :=
      Piece.contains_join [.fixed "INTERVAL '", .part amount, .fixed "' ", .part unit.keyword,
        .part precision] (by simp [Piece.contents])
    generalize "INTERVAL '" ++ amount ++ "' " ++ unit.keyword ++ precision = interval at hinterval ⊢
    have hparts : Holds _ [a.value, interval] := holds_join [.fixed "(", .part a.value,
      .fixed " + ", .part interval, .fixed ")"] (by simp [Piece.contents])
    exact hparts.trans (by simp [hinterval, Text.Contains.refl])
  · exact holds_join [.fixed "(", .part a.value, .fixed " + ", .part amount, .fixed " * ",
      .part _, .fixed ")"] (by simp [Piece.contents])

theorem shownBy_unitFirstCall : a.ShownBy factor (a.unitFirstCall name) :=
  shownBy_of_holds (holds_call.subset (by simp))

theorem shownBy_unitTextCall : a.ShownBy factor (a.unitTextCall name) :=
  shownBy_of_holds (holds_call.subset (by simp))

theorem shownBy_intervalCall : a.ShownBy factor (a.intervalCall name) := by
  have hinterval : Text.Contains ("INTERVAL " ++ a.amount ++ " " ++ a.unit.keyword) a.amount :=
    Piece.contains_join [.fixed "INTERVAL ", .part a.amount, .fixed " ", .part a.unit.keyword]
      (by simp [Piece.contents])
  exact shownBy_of_holds (holds_call.trans (by simp [hinterval, Text.Contains.refl]))

end DateAdd

end Calls

/-! ## dialects -/

/-- A written call shows its arguments; the second may be an amount that is multiplied. -/
def ShowsArguments (factor : Option Int) (args : List String) (text : String) : Prop :=
  ∀ i a, args[i]? = some a → Text.Contains text a ∨ i = 1 ∧ ShowsAmount factor text a

section

variable {factor : Option Int} {f : ScalarFunction} {args : List String} {text out : String}

theorem ShowsArguments.of_holds (h : Holds text args) : ShowsArguments factor args text :=
  fun _ a ha => .inl (h a (List.mem_of_getElem? ha))

theorem ShowsArguments.of_some (h : Holds text args) (hout : some text = some out) :
    ShowsArguments factor args out := by
  cases hout
  exact .of_holds h

/-- A call that adds to a date shows its arguments as its form does. -/
theorem ShowsArguments.of_dateAdd {form : DateAdd → String}
    (hform : ∀ a : DateAdd, DateUnit.ofFunction? f = some a.unit → a.ShownBy factor (form a))
    (h : (DateAdd.ofCall? f args).map form = some out) : ShowsArguments factor args out := by
  obtain ⟨a, ha, rfl⟩ := Option.map_eq_some_iff.1 h
  unfold DateAdd.ofCall? at ha
  split at ha
  next value amount =>
    obtain ⟨unit, hunit, rfl⟩ := Option.map_eq_some_iff.1 ha
    have hshown := hform ⟨unit, value, amount⟩ hunit
    intro i b hb
    match i with
    | 0 => cases hb; exact .inl hshown.value
    | 1 => cases hb; exact .inr ⟨rfl, hshown.amount⟩
    | i + 2 => cases hb
  next => cases ha

theorem Target.holds_plainScalar (t : Target) (hf : f.isKeyword = false) :
    Holds (t.plainScalar f args) args := by
  unfold Target.plainScalar
  split
  · exact holds_operatorChain
  · split
    · exact holds_negate
    · rw [if_neg (by simp [hf])]
      exact holds_call

end

namespace Dialect

/-- The number of days or months by which a dialect writes a unit that it lacks. -/
def unitFactor? : Dialect → ScalarFunction → Option Int
  | db2, .addWeeks | hive, .addWeeks | oracle, .addWeeks | postgreSql, .addWeeks
  | teradata, .addWeeks => some 7
  | oracle, .addYears | teradata, .addYears => some 12
  | _, _ => none

variable {d : Dialect} {f : ScalarFunction} {args : List String} {out : String}

/- Most forms of a dialect hold their arguments by the lemmas above, which `simp` finds; the proofs
list the forms that convert, rewrite or add to a date. -/

/-- The factor of a call is that of its unit. -/
theorem unitFactor?_of_unit {unit given : DateUnit} {k : Int}
    (hf : DateUnit.ofFunction? f = some given) (hunit : given = unit)
    (hd : d.unitFactor? unit.function = some k) : d.unitFactor? f = some k := by
  rw [DateUnit.eq_function_of_unit hf, hunit, hd]

theorem Athena.showsArguments (h : scalarForm f args = some out) :
    ShowsArguments (athena.unitFactor? f) args out := by
  unfold scalarForm at h
  split at h
  all_goals try exact .of_some (by simp) h
  · exact .of_some (.of_textArguments (contains_cast · _) holds_defaultedCall) h
  · exact .of_dateAdd (fun _ _ => DateAdd.shownBy_unitTextCall) h

theorem Db2.showsArguments (h : scalarForm f args = some out) :
    ShowsArguments (db2.unitFactor? f) args out := by
  unfold scalarForm at h
  split at h
  all_goals try exact .of_some (by simp) h
  refine .of_dateAdd (fun a hunit => ?_) h
  exact DateAdd.shownBy_durationSum fun hweek => unitFactor?_of_unit hunit hweek rfl

theorem Hive.showsArguments (h : scalarForm f args = some out) :
    ShowsArguments (hive.unitFactor? f) args out := by
  unfold scalarForm at h
  split at h
  all_goals try exact .of_some (by simp) h
  refine .of_dateAdd (fun a hunit => ?_) h
  exact DateAdd.shownBy_intervalLiteral fun hweek => unitFactor?_of_unit hunit hweek rfl

theorem Impala.showsArguments (h : scalarForm f args = some out) :
    ShowsArguments (impala.unitFactor? f) args out := by
  unfold scalarForm at h
  split at h
  all_goals try exact .of_some (by simp) h
  · exact .of_some (.of_textArguments (contains_cast · _) holds_call) h
  · cases h

theorem MySql.showsArguments (h : scalarForm f args = some out) :
    ShowsArguments (mySql.unitFactor? f) args out := by
  unfold scalarForm at h
  split at h
  all_goals try exact .of_some (by simp) h
  exact .of_dateAdd (fun _ _ => DateAdd.shownBy_intervalCall) h

theorem Oracle.shownBy_dateAdd {a : DateAdd} (hunit : DateUnit.ofFunction? f = some a.unit) :
    a.ShownBy (oracle.unitFactor? f) (dateAdd a) := by
  have hinterval : a.ShownBy (oracle.unitFactor? f) ("(" ++ a.value ++ " + NUMTODSINTERVAL(" ++
      a.amount ++ ", '" ++ a.unit.keyword ++ "'))") :=
    DateAdd.shownBy_of_holds (holds_join [.fixed "(", .part a.value, .fixed " + NUMTODSINTERVAL(",
      .part a.amount, .fixed ", '", .part a.unit.keyword, .fixed "'))"] (by simp [Piece.contents]))
  unfold dateAdd
  split
  · exact DateAdd.shownBy_of_holds (holds_join [.fixed "(", .part a.value, .fixed " + ",
      .part a.amount, .fixed ")"] (by simp [Piece.contents]))
  next hweek =>
    refine DateAdd.shownBy_of_multiplied (unitFactor?_of_unit hunit hweek rfl) ?_
    exact holds_join [.fixed "(", .part a.value, .fixed " + ", .part (daysInWeeks a.amount),
      .fixed ")"] (by simp [Piece.contents, daysInWeeks])
  · exact hinterval
  · exact hinterval
  · exact hinterval
  · exact DateAdd.shownBy_of_holds (holds_call.subset (by simp))
  next hyear =>
    exact DateAdd.shownBy_of_multiplied (unitFactor?_of_unit hunit hyear rfl)
      (holds_call.subset (by simp))

theorem Oracle.showsArguments (h : scalarForm f args = some out) :
    ShowsArguments (oracle.unitFactor? f) args out := by
  unfold scalarForm at h
  split at h
  all_goals try exact .of_some (by simp) h
  next a b =>
    exact .of_some (holds_join [.fixed "(", .part a, .fixed " + ", .part b, .fixed " - BITAND(",
      .part a, .fixed ", ", .part b, .fixed "))"] (by simp [Piece.contents])) h
  next a b =>
    exact .of_some (holds_join [.fixed "(", .part a, .fixed " + ", .part b,
      .fixed " - 2 * BITAND(", .part a, .fixed ", ", .part b, .fixed "))"]
      (by simp [Piece.contents])) h
  next => exact .of_dateAdd (fun _ hunit => shownBy_dateAdd hunit) h

theorem PostgreSql.showsArguments (h : scalarForm f args = some out) :
    ShowsArguments (postgreSql.unitFactor? f) args out := by
  unfold scalarForm at h
  split at h
  all_goals try exact .of_some (by simp) h
  refine .of_dateAdd (fun a hunit => ?_) h
  exact DateAdd.shownBy_intervalLiteral fun hweek => unitFactor?_of_unit hunit hweek rfl

theorem Redshift.showsArguments (h : scalarForm f args = some out) :
    ShowsArguments (redshift.unitFactor? f) args out := by
  unfold scalarForm at h
  split at h
  all_goals try exact .of_some (by simp) h
  · exact .of_some (.of_textArguments (contains_cast · _) holds_operatorChain) h
  · exact .of_dateAdd (fun _ _ => DateAdd.shownBy_unitFirstCall) h

theorem SqlServer.showsArguments_familyForm {factor : Option Int}
    (h : familyForm f args = some out) : ShowsArguments factor args out := by
  unfold familyForm at h
  split at h
  all_goals try exact .of_some (by simp) h
  exact .of_dateAdd (fun _ _ => DateAdd.shownBy_unitFirstCall) h

theorem SqlServer.showsArguments_ownForm {factor : Option Int} (hf : f.isKeyword = false)
    (h : ownForm f args = some out) : ShowsArguments factor args out := by
  unfold ownForm at h
  split at h
  all_goals try exact .of_some (by simp) h
  · exact .of_some (holds_call.subset (by simp)) h
  · exact .of_some (holds_call.subset (by simp)) h
  · cases hf
  · cases h

theorem SqlServer.showsArguments (hf : f.isKeyword = false) (h : scalarForm f args = some out) :
    ShowsArguments (sqlServer.unitFactor? f) args out := by
  simp only [scalarForm, Option.orElse_eq_orElse, Option.orElse_eq_or,
    Option.or_eq_some_iff] at h
  obtain h | ⟨-, h⟩ := h
  · exact showsArguments_familyForm h
  · exact showsArguments_ownForm hf h

theorem Sybase.showsArguments (hf : f.isKeyword = false) (h : scalarForm f args = some out) :
    ShowsArguments (sybase.unitFactor? f) args out := by
  unfold scalarForm at h
  split at h
  all_goals try exact .of_some (holds_call.subset (by simp)) h
  · have hconvert : ∀ a, Text.Contains (call "CONVERT" [maxText, a]) a := fun a =>
      holds_call a (by simp)
    exact .of_some (.of_textArguments hconvert holds_operatorChain) h
  · cases hf
  · cases hf
  · exact SqlServer.showsArguments_familyForm h

theorem Teradata.shownBy_dateAdd {a : DateAdd} (hunit : DateUnit.ofFunction? f = some a.unit) :
    a.ShownBy (teradata.unitFactor? f) (dateAdd a) := by
  unfold dateAdd
  split
  · exact DateAdd.shownBy_of_holds (holds_call.subset (by simp))
  next hyear =>
    exact DateAdd.shownBy_of_multiplied (unitFactor?_of_unit hunit hyear rfl)
      (holds_call.subset (by simp))
  · exact DateAdd.shownBy_intervalLiteral fun hweek => unitFactor?_of_unit hunit hweek rfl

theorem Teradata.showsArguments (h : scalarForm f args = some out) :
    ShowsArguments (teradata.unitFactor? f) args out := by
  unfold scalarForm at h
  split at h
  all_goals try exact .of_some (by simp) h
  next string search =>
    exact .of_some (holds_join [.fixed "POSITION(", .part search, .fixed " IN ", .part string,
      .fixed ")"] (by simp [Piece.contents])) h
  next => exact .of_dateAdd (fun _ hunit => shownBy_dateAdd hunit) h

/-- The calls of a dialect that are not plain show their arguments. -/
theorem showsArguments_scalarForm {p : Properties} {t : Target} (ht : d.target p = .ok t)
    (hf : f.isKeyword = false) (h : t.scalarForm f args = some out) :
    ShowsArguments (d.unitFactor? f) args out := by
  cases d with
  | athena => cases ht; exact Athena.showsArguments h
  | db2 => cases ht; exact Db2.showsArguments h
  | generic =>
    obtain ⟨_, _, _, _, _, _, rfl⟩ := Generic.exists_of_target ht
    cases h
  | hive => cases ht; exact Hive.showsArguments h
  | impala => cases ht; exact Impala.showsArguments h
  | mySql => cases ht; exact MySql.showsArguments h
  | native => cases ht; cases h
  | oracle =>
    obtain ⟨override, rfl⟩ := Oracle.exists_of_target ht
    exact Oracle.showsArguments h
  | postgreSql => cases ht; exact PostgreSql.showsArguments h
  | redshift => cases ht; exact Redshift.showsArguments h
  | sqlServer => cases ht; exact SqlServer.showsArguments hf h
  | sybase => cases ht; exact Sybase.showsArguments hf h
  | teradata => cases ht; exact Teradata.showsArguments h

/-- A call that is written as a bare word has no arguments. -/
theorem length_eq_zero_of_isKeyword {profile : Profile} {n : Nat} (hf : f.isKeyword = true)
    (h : (profile.scalarArity f).admits n = true) : n = 0 := by
  have harity := Profile.admits_arity_of_scalarArity h
  refine eq_of_admits_exactly ?_
  cases f <;> first | exact harity | cases hf

/-- **No scalar call loses an argument**: in every built dialect the text of a call with an admitted
number of arguments holds each of them character by character.  The one exception is the amount of
weeks or years, at the second place: where the dialect writes these as days or months and the amount
is an integer literal, its product with 7 or 12 may stand for it. -/
theorem scalarText_keeps {p : Properties} {t : Target} (ht : d.target p = .ok t)
    (harity : (t.profile.scalarArity f).admits args.length = true) (i : Nat) (a : String)
    (ha : args[i]? = some a) :
    Text.Contains (t.scalarText f args) a ∨
      i = 1 ∧ ∃ factor n, d.unitFactor? f = some factor ∧ integerLiteral? a = some n ∧
        Text.Contains (t.scalarText f args) (toString (factor * n)) := by
  have hshown : ShowsArguments (d.unitFactor? f) args (t.scalarText f args) := by
    cases hf : f.isKeyword with
    | true =>
      rw [List.length_eq_zero_iff.1 (length_eq_zero_of_isKeyword hf harity)]
      exact .of_holds fun _ ha => absurd ha List.not_mem_nil
    | false =>
      unfold Target.scalarText
      cases hform : t.scalarForm f args with
      | none => exact .of_holds (t.holds_plainScalar hf)
      | some out => exact showsArguments_scalarForm ht hf hform
  obtain hcontains | ⟨hi, hcontains | hmultiplied⟩ := hshown i a ha
  · exact .inl hcontains
  · exact .inl hcontains
  · exact .inr ⟨hi, hmultiplied⟩

/-- Five years are added as sixty months: the amount is gone, and its product is there. -/
theorem scalarText_keeps_product :
    ¬Text.Contains (Teradata.target.scalarText .addYears ["T.D", "5"]) "5" ∧
      ∃ factor n, teradata.unitFactor? .addYears = some factor ∧ integerLiteral? "5" = some n ∧
        Text.Contains (Teradata.target.scalarText .addYears ["T.D", "5"])
          (toString (factor * n)) := by
  have htarget : teradata.target {} = .ok Teradata.target := rfl
  have hgone : ¬Text.Contains (Teradata.target.scalarText .addYears ["T.D", "5"]) "5" := by
    decide +kernel
  have harity : (Teradata.target.profile.scalarArity .addYears).admits ["T.D", "5"].length = true :=
    rfl
  obtain hkept | ⟨-, hproduct⟩ := scalarText_keeps htarget harity 1 "5" rfl
  · exact absurd hkept hgone
  · exact ⟨hgone, hproduct⟩

end Dialect

end RemoteQuery
