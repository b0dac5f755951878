import RemoteQuery.Proofs.DecimalNotation
import RemoteQuery.Proofs.NumberTransport

/-!
# RemoteQuery.Proofs.Configuration

The configurations that a dialect is built from.

Two dialects read one setting each, and the others read none.  Oracle reads the
decimal override, a text of two numbers; the generic dialect reads the schema
notes, which have to settle how identifiers are quoted, what becomes of their case
and where absent values are sorted.  Nothing else can make a dialect fail, and
nothing else shows in what it writes.

* `DecimalOverride.parse_accepts_exactly` — the texts that are a decimal override;
* `Dialect.Generic.exists_profileOf_iff` — the notes that settle everything;
* `Dialect.built_from_settings` — the configurations that a dialect refuses, and
  those that are the same to it.
-/

namespace RemoteQuery

/-! ## decimal overrides -/

namespace DecimalOverride

/-- A numeral of 32 bits, possibly after a plus sign and between blanks. -/
def IsNumber (cs : List Char) (n : Nat) : Prop :=
  ∃ left core right, cs = left ++ core ++ right ∧ (∀ c ∈ left, Text.isBlank c = true) ∧
    (∀ c ∈ right, Text.isBlank c = true) ∧ Text.DenotesNatural core n ∧ n < 2 ^ 32

/-- A text with a comma, whose first one stands between the precision and the scale. -/
def Names (raw : String) (o : DecimalOverride) : Prop :=
  ∃ before after, raw.toList = before ++ ',' :: after ∧ ',' ∉ before ∧
    IsNumber before o.precision ∧ IsNumber after o.scale

theorem number?_eq_some_iff {cs : List Char} {n : Nat} :
    number? cs = some n ↔ IsNumber cs n := by
  rw [number?, Text.natural?_eq_some_iff]
  constructor
  · rintro ⟨hcore, hbound⟩
    obtain ⟨left, right, hcs, hleft, hright⟩ :=
      (Text.toList_trim_eq_iff hcore.ne_nil hcore.isBlank).1 rfl
    rw [String.toList_ofList] at hcs
    exact ⟨left, _, right, hcs, hleft, hright, hcore, hbound⟩
  · rintro ⟨left, core, right, rfl, hleft, hright, hcore, hbound⟩
    have htrim : (Text.trim (String.ofList (left ++ core ++ right))).toList = core :=
      (Text.toList_trim_eq_iff hcore.ne_nil hcore.isBlank).2
        ⟨left, right, String.toList_ofList, hleft, hright⟩
    rw [htrim]
    exact ⟨hcore, hbound⟩

section

variable {raw : String} {before after : List Char} {o : DecimalOverride}

theorem parse_of_no_comma (h : ',' ∉ raw.toList) : parse raw = .error ⟨raw, .noComma⟩ := by
  have hnone : raw.toList.dropWhile (· != ',') = [] := by
    rw [List.dropWhile_eq_nil_iff]
    exact fun c hc => bne_iff_ne.2 fun he => h (he ▸ hc)
  rw [parse, hnone]

/-- A text is cut at its first comma. -/
theorem cut_at_comma (hraw : raw.toList = before ++ ',' :: after) (hbefore : ',' ∉ before) :
    raw.toList.takeWhile (· != ',') = before ∧
      raw.toList.dropWhile (· != ',') = ',' :: after := by
  have hplain : ∀ c ∈ before, (c != ',') = true := fun c hc =>
    bne_iff_ne.2 fun he => hbefore (he ▸ hc)
  have hspan : (before ++ ',' :: after).span (· != ',') = (before, ',' :: after) :=
    Reader.span_append hplain (by simp)
  rw [List.span_eq_takeWhile_dropWhile, Prod.mk.injEq] at hspan
  rw [hraw]
  exact hspan

/-- A text that names two numbers within the limits is read as the decimal of them. -/
theorem parse_of_names (h : Names raw o) (hlimits : o.WithinLimits) : parse raw = .ok o := by
  obtain ⟨before, after, hraw, hbefore, hprecision, hscale⟩ := h
  obtain ⟨htake, hdrop⟩ := cut_at_comma hraw hbefore
  obtain ⟨hone, hmax, hle⟩ := hlimits
  have hrange : ¬(o.precision = 0 ∨ CanonicalType.maxDecimalPrecision < o.precision) := by
    rw [CanonicalType.maxDecimalPrecision]
    omega
  rw [parse, htake, hdrop]
  simp only [number?_eq_some_iff.2 hprecision, number?_eq_some_iff.2 hscale]
  rw [if_neg hrange, if_neg (Nat.not_lt.2 hle)]

/-- A text is refused and stands unchanged in the error, or it names what it is read as. -/
theorem parse_cases (raw : String) :
    (∃ cause, parse raw = .error ⟨raw, cause⟩) ∨ ∃ o, parse raw = .ok o ∧ Names raw o := by
  by_cases hcomma : ',' ∈ raw.toList
  · obtain ⟨before, after, hraw, hbefore⟩ := List.eq_append_cons_of_mem hcomma
    obtain ⟨htake, hdrop⟩ := cut_at_comma hraw hbefore
    rw [parse, htake, hdrop]
    simp only
    split
    next => exact .inl ⟨_, rfl⟩
    next => exact .inl ⟨_, rfl⟩
    next p s hp hs =>
      split
      next => exact .inl ⟨_, rfl⟩
      next =>
        split
        next => exact .inl ⟨_, rfl⟩
        next =>
          exact .inr ⟨_, rfl, before, after, hraw, hbefore, number?_eq_some_iff.1 hp,
            number?_eq_some_iff.1 hs⟩
  · exact .inl ⟨_, parse_of_no_comma hcomma⟩

theorem names_of_parse (h : parse raw = .ok o) : Names raw o := by
  obtain ⟨cause, hcause⟩ | ⟨o', ho', hnames⟩ := parse_cases raw
  · rw [hcause] at h
    cases h
  · rw [ho'] at h
    cases h
    exact hnames

theorem parse_eq_ok_iff : parse raw = .ok o ↔ Names raw o ∧ o.WithinLimits :=
  ⟨fun h => ⟨names_of_parse h, withinLimits_of_parse h⟩, fun h => parse_of_names h.1 h.2⟩

/-- A number is named by its digits. -/
theorem isNumber_toDigits {n : Nat} (h : n < 2 ^ 32) : IsNumber (Nat.toDigits 10 n) n :=
  ⟨[], _, [], by simp, by simp, by simp, .inl (Text.denotes_toDigits n), h⟩

/-- A decimal is named by its precision and its scale with a comma in between. -/
theorem names_text {p s : Nat} (hmax : p ≤ 36) (hle : s ≤ p) :
    Names (toString p ++ "," ++ toString s) ⟨p, s⟩ := by
  refine ⟨Nat.toDigits 10 p, Nat.toDigits 10 s, ?_, ?_, isNumber_toDigits (by omega),
    isNumber_toDigits (by omega)⟩
  · simp [Nat.toString_eq_repr, Nat.toList_repr]
  · intro hcomma
    exact absurd (Text.isDigit_of_mem_digits hcomma) (by decide)

end

/-- **A decimal override is a text of two numbers**: it is accepted exactly when the parts before
and after its first comma are numerals of 32 bits, up to a plus sign and outer blanks, that denote a
precision and a scale within the limits of the type system.  Any other text is refused by an error
that holds it unchanged. -/
theorem parse_accepts_exactly :
    (∀ raw o, parse raw = .ok o ↔
      Names raw o ∧ 1 ≤ o.precision ∧ o.precision ≤ 36 ∧ o.scale ≤ o.precision) ∧
    (∀ raw, (¬∃ o, Names raw o ∧ 1 ≤ o.precision ∧ o.precision ≤ 36 ∧ o.scale ≤ o.precision) →
      ∃ cause, parse raw = .error ⟨raw, cause⟩ ∧ ∀ props : Properties,
        (props.withNumberOverride raw).numberOverride = .error (.invalidOverride ⟨raw, cause⟩)) ∧
    ∀ p s : Nat, 1 ≤ p → p ≤ 36 → s ≤ p →
      parse (toString p ++ "," ++ toString s) = .ok ⟨p, s⟩ := by
  refine ⟨fun raw o => parse_eq_ok_iff, fun raw hother => ?_, fun p s hone hmax hle => ?_⟩
  · obtain ⟨cause, hcause⟩ | ⟨o, ho, -⟩ := parse_cases raw
    case inr => exact absurd ⟨o, parse_eq_ok_iff.1 ho⟩ hother
    refine ⟨cause, hcause, fun props => ?_⟩
    rw [Properties.numberOverride, Properties.withNumberOverride]
    simp only [hcause]
    rfl
  · exact parse_of_names (names_text hmax hle) ⟨hone, hmax, hle⟩

/-- The greatest decimal is read, and a text without a comma is refused. -/
theorem parse_accepts_exactly_greatest :
    Names "36,36" ⟨36, 36⟩ ∧ parse "36,36" = .ok ⟨36, 36⟩ ∧
      ∃ cause, parse "10;2" = .error ⟨"10;2", cause⟩ ∧ ∀ props : Properties,
        (props.withNumberOverride "10;2").numberOverride =
          .error (.invalidOverride ⟨"10;2", cause⟩) := by
  obtain ⟨hiff, hrefused, htext⟩ := parse_accepts_exactly
  have hgreatest := htext 36 36 (by decide) (by decide) (by decide)
  refine ⟨((hiff _ _).1 hgreatest).1, hgreatest, hrefused "10;2" ?_⟩
  rintro ⟨o, ho⟩
  have hfails : parse "10;2" = .error ⟨"10;2", .noComma⟩ := parse_of_no_comma (by decide)
  rw [(hiff _ _).2 ho] at hfails
  cases hfails

end DecimalOverride

/-! ## schema notes -/

namespace SchemaNotes

/-- The facts about the case of identifiers that are written bare. -/
def unquotedCaseFlags : List SchemaFlag :=
  [.storesUpperCase, .storesLowerCase, .storesMixedCase, .supportsMixedCase]

/-- The facts about the case of quoted identifiers. -/
def quotedCaseFlags : List SchemaFlag :=
  [.storesUpperCaseQuoted, .storesLowerCaseQuoted, .storesMixedCaseQuoted, .supportsMixedCaseQuoted]

/-- The facts about the place of absent values. -/
def nullSortingFlags : List SchemaFlag :=
  [.nullsSortedHigh, .nullsSortedLow, .nullsSortedAtStart, .nullsSortedAtEnd]

/-- Notes from which a target cannot be built. -/
inductive LeavesOpen (n : SchemaNotes) : Prop
  | quote (h : Text.trim n.identifierQuote ∉ ["\"", "\x60", "[", "[]"])
  | unquotedCase (h : ∀ flag ∈ unquotedCaseFlags, n.holds flag = false)
  | quotedCase (h : ∀ flag ∈ quotedCaseFlags, n.holds flag = false)
  | nullSorting (h : nullSortingFlags.countP n.holds ≠ 1)

end SchemaNotes

namespace Dialect

namespace Generic

variable {n : SchemaNotes} {p : Properties}

theorem exists_quoteStyle_iff :
    (∃ style, quoteStyle n = .ok style) ↔
      Text.trim n.identifierQuote ∈ ["\"", "\x60", "[", "[]"] := by
  constructor
  · rintro ⟨style, h⟩
    by_contra hother
    simp only [List.mem_cons, List.not_mem_nil, or_false, not_or] at hother
    obtain ⟨hdouble, hbacktick, hbracket, hpair⟩ := hother
    simp only [quoteStyle, beq_iff_eq, hdouble, hbacktick, hbracket, hpair, Bool.or_eq_true,
      or_false, if_false] at h
    split at h <;> cases h
  · intro h
    simp only [List.mem_cons, List.not_mem_nil, or_false] at h
    obtain h | h | h | h := h <;> simp [quoteStyle, h]

/-- Four facts settle the treatment of case when one of them holds. -/
theorem exists_caseHandling_iff {supportsMixed storesUpper storesLower storesMixed : Bool} :
    (∃ handling, caseHandling supportsMixed storesUpper storesLower storesMixed = some handling) ↔
      ¬(storesUpper = false ∧ storesLower = false ∧ storesMixed = false ∧
        supportsMixed = false) := by
  cases supportsMixed <;> cases storesUpper <;> cases storesLower <;> cases storesMixed <;>
    simp [caseHandling]

theorem exists_unquotedCase_iff :
    (∃ handling, unquotedCase n = some handling) ↔
      ¬∀ flag ∈ SchemaNotes.unquotedCaseFlags, n.holds flag = false := by
  rw [unquotedCase, exists_caseHandling_iff]
  simp [SchemaNotes.unquotedCaseFlags]

theorem exists_quotedCase_iff :
    (∃ handling, quotedCase n = some handling) ↔
      ¬∀ flag ∈ SchemaNotes.quotedCaseFlags, n.holds flag = false := by
  rw [quotedCase, exists_caseHandling_iff]
  simp [SchemaNotes.quotedCaseFlags]

theorem exists_nullSorting_iff :
    (∃ sorting, nullSorting n = .ok sorting) ↔
      SchemaNotes.nullSortingFlags.countP n.holds = 1 := by
  have hflags : SchemaNotes.nullSortingFlags = nullSortings.map Prod.fst := rfl
  rw [nullSorting, hflags, List.countP_map, List.countP_eq_length_filter]
  change _ ↔ (nullSortings.filter fun p => n.holds p.1).length = 1
  cases nullSortings.filter fun p => n.holds p.1 with
  | nil => simp
  | cons first rest => cases rest <;> simp

/-- The notes determine a profile unless they leave something open. -/
theorem exists_profileOf_iff : (∃ profile, profileOf n = .ok profile) ↔ ¬n.LeavesOpen := by
  have hcase {fault : NotesError} {handling : Option CaseHandling} {c : CaseHandling} :
      handling.elim (.error fault) .ok = (.ok c : Except NotesError CaseHandling) ↔
        handling = some c := by
    cases handling <;> simp
  simp only [profileOf, bind_eq_ok, pure_eq_ok, hcase]
  constructor
  · rintro ⟨_, style, hstyle, unquoted, hunquoted, quoted, hquoted, sorting, hsorting, -⟩ hopen
    cases hopen with
    | quote h => exact h (exists_quoteStyle_iff.1 ⟨style, hstyle⟩)
    | unquotedCase h => exact exists_unquotedCase_iff.1 ⟨unquoted, hunquoted⟩ h
    | quotedCase h => exact exists_quotedCase_iff.1 ⟨quoted, hquoted⟩ h
    | nullSorting h => exact h (exists_nullSorting_iff.1 ⟨sorting, hsorting⟩)
  · intro hsettled
    obtain ⟨style, hstyle⟩ := exists_quoteStyle_iff.2 (not_not.1 fun h => hsettled (.quote h))
    obtain ⟨unquoted, hunquoted⟩ :=
      exists_unquotedCase_iff.2 fun h => hsettled (.unquotedCase h)
    obtain ⟨quoted, hquoted⟩ := exists_quotedCase_iff.2 fun h => hsettled (.quotedCase h)
    obtain ⟨sorting, hsorting⟩ :=
      exists_nullSorting_iff.2 (not_not.1 fun h => hsettled (.nullSorting h))
    exact ⟨_, style, hstyle, unquoted, hunquoted, quoted, hquoted, sorting, hsorting, rfl⟩

/-- The generic dialect is refused without notes, or for notes that leave something open. -/
theorem target_fails_iff :
    (∃ cause, target p = .error cause) ↔
      p.schemaNotes = none ∨ ∃ n, p.schemaNotes = some n ∧ n.LeavesOpen := by
  rw [target]
  cases p.schemaNotes with
  | none => simp
  | some n =>
    cases hn : profileOf n with
    | error fault =>
      have hopen : n.LeavesOpen := by
        by_contra hsettled
        obtain ⟨profile, hok⟩ := exists_profileOf_iff.2 hsettled
        rw [hn] at hok
        cases hok
      simp [hn, hopen]
    | ok profile =>
      have hsettled : ¬n.LeavesOpen := exists_profileOf_iff.1 ⟨profile, hn⟩
      simp [hn, hsettled]

/-- The faults of the generic dialect are those of its notes. -/
theorem malformed_of_target {cause : ConfigError} (h : target p = .error cause) :
    ∃ fault, cause = .malformedNotes "GENERIC" fault := by
  rw [target] at h
  split at h
  next =>
    cases h
    exact ⟨_, rfl⟩
  next =>
    split at h
    next fault _ =>
      cases h
      exact ⟨fault, rfl⟩
    next => cases h

end Generic

/-- Oracle is refused for an override that cannot be read. -/
theorem Oracle.target_fails_iff {p : Properties} :
    (∃ cause, Oracle.target p = .error cause) ↔
      ∃ raw fault, p.castNumberToDecimal = some raw ∧ DecimalOverride.parse raw = .error fault := by
  rw [Oracle.target, Properties.numberOverride]
  cases p.castNumberToDecimal with
  | none => simp [Except.map]
  | some raw =>
    cases hraw : DecimalOverride.parse raw with
    | error fault => simp [Except.map, Except.mapError, hraw]
    | ok o => simp [Except.map, Except.mapError, hraw]

/-! ## dialects -/

/-- The settings that a dialect reads. -/
def settings (p : Properties) : Dialect → Properties
  | oracle => { castNumberToDecimal := p.castNumberToDecimal }
  | generic => { schemaNotes := p.schemaNotes }
  | _ => {}

/-- A configuration from which a dialect cannot be built. -/
inductive Misconfigured (p : Properties) : Dialect → Prop
  | override {raw : String} {fault : InvalidOverride} (hraw : p.castNumberToDecimal = some raw)
      (hfault : DecimalOverride.parse raw = .error fault) : Misconfigured p oracle
  | noNotes (hnotes : p.schemaNotes = none) : Misconfigured p generic
  | notes {n : SchemaNotes} (hnotes : p.schemaNotes = some n) (hopen : n.LeavesOpen) :
      Misconfigured p generic

theorem target_fails_iff (d : Dialect) (p : Properties) :
    (∃ cause, d.target p = .error cause) ↔ d.Misconfigured p := by
  cases d with
  | oracle =>
    refine Oracle.target_fails_iff.trans ⟨?_, ?_⟩
    · rintro ⟨raw, fault, hraw, hfault⟩
      exact .override hraw hfault
    · rintro ⟨hraw, hfault⟩
      exact ⟨_, _, hraw, hfault⟩
  | generic =>
    refine Generic.target_fails_iff.trans ⟨?_, ?_⟩
    · rintro (hnotes | ⟨n, hnotes, hopen⟩)
      · exact .noNotes hnotes
      · exact .notes hnotes hopen
    · rintro (_ | hnotes | ⟨hnotes, hopen⟩)
      · exact .inl hnotes
      · exact .inr ⟨_, hnotes, hopen⟩
  | athena | db2 | hive | impala | mySql | native | postgreSql | redshift | sqlServer | sybase
  | teradata =>
    constructor
    · rintro ⟨cause, h⟩
      cases h
    · rintro ⟨⟩

/-- A dialect is built from the settings it reads. -/
theorem target_settings (d : Dialect) (p : Properties) : d.target (d.settings p) = d.target p := by
  cases d <;> rfl

/-- A dialect that reads no settings is always built, into one target. -/
theorem exists_target {d : Dialect} (horacle : d ≠ oracle) (hgeneric : d ≠ generic) :
    ∃ t, ∀ p, d.target p = .ok t := by
  cases d with
  | oracle => exact absurd rfl horacle
  | generic => exact absurd rfl hgeneric
  | athena | db2 | hive | impala | mySql | native | postgreSql | redshift | sqlServer | sybase
  | teradata => exact ⟨_, fun _ => rfl⟩

/-- **A dialect depends on its own settings alone**: it is refused exactly for an override it cannot
read or for notes that leave something open, whichever of the two it reads, and configurations that
agree on what it reads give the same text for every query and the same type for every column. -/
theorem built_from_settings (d : Dialect) :
    (d ≠ oracle → d ≠ generic → ∃ t, ∀ p, d.target p = .ok t) ∧
    (∀ p, (∃ cause, d.target p = .error cause) ↔ d.Misconfigured p) ∧
    (∀ p cause, generic.target p = .error cause →
      ∃ fault, cause = .malformedNotes "GENERIC" fault) ∧
    ∀ p q, d.settings p = d.settings q →
      d.target p = d.target q ∧ (∀ s, d.generate p s = d.generate q s) ∧
        ∀ r, (d.target p).map (·.mapType r) = (d.target q).map (·.mapType r) := by
  refine ⟨exists_target, d.target_fails_iff, fun p cause => Generic.malformed_of_target, ?_⟩
  intro p q hsettings
  have htarget : d.target p = d.target q := by
    rw [← d.target_settings p, hsettings, d.target_settings q]
  exact ⟨htarget, fun s => by rw [generate, generate, htarget], fun r => by rw [htarget]⟩

/-- MySQL writes the same under settings that no dialect could be built from; the generic dialect is
refused without notes, whatever the override. -/
theorem built_from_settings_ignored :
    (∃ t, ∀ p, mySql.target p = .ok t) ∧
      (∀ s, mySql.generate { castNumberToDecimal := some "ten", schemaNotes := some {} } s =
        mySql.generate {} s) ∧
      ∃ fault, generic.target { castNumberToDecimal := some "10,2" } =
        .error (.malformedNotes "GENERIC" fault) := by
  obtain ⟨halways, -, -, hsame⟩ := built_from_settings mySql
  obtain ⟨-, hfails, hfault, -⟩ := built_from_settings generic
  obtain ⟨cause, hcause⟩ := (hfails { castNumberToDecimal := some "10,2" }).2 (.noNotes rfl)
  obtain ⟨fault, rfl⟩ := hfault _ _ hcause
  exact ⟨halways (by decide) (by decide), (hsame _ _ rfl).2.1, fault, hcause⟩

end Dialect

end RemoteQuery
