import RemoteQuery.Proofs.NumberTransport

/-!
# RemoteQuery.Proofs.NativeNames

What a driver calls a type decides how its columns are mapped and how they are
transported, in two tables of every dialect.

Drivers do not agree on the case of these names, so neither table may read it.
`RemoteType.Alike` and `ColumnMetadata.Alike` relate what differs in the case of
the name alone, and every test of a name is the same on both sides:

* `Dialect.claimType_eq`, `Dialect.transportForm_eq` — the two tables of every
  built dialect;
* `Dialect.mapType_eq_and_transportForm_eq` — types and transport forms.

The tables are separate, and a column has to be transported in the type that it
was mapped to:

* `Dialect.transported_in_step` — where a dialect claims a type for its name, it
  wraps the columns of that name, and the sizes in both are the same.
-/

namespace RemoteQuery

/-! ## names in any case -/

namespace Text

variable {a b : String}

/-- Words that differ in case alone are the same in small letters. -/
theorem toLower_eq_of_sameWord (h : sameWord a b = true) : a.toLower = b.toLower := by
  simpa [sameWord] using h

/-- Words that differ in case alone are compared alike with every word. -/
theorem sameWord_eq_of_sameWord (h : sameWord a b = true) : sameWord a = sameWord b := by
  funext word
  rw [sameWord, toLower_eq_of_sameWord h, sameWord]

theorem sameWord_comm (a b : String) : sameWord a b = sameWord b a := by
  rw [sameWord, sameWord, Bool.beq_comm]

/-- Words are compared character by character. -/
theorem sameWord_eq_decide :
    sameWord = fun a b => decide (a.toList.map Char.toLower = b.toList.map Char.toLower) := by
  funext a b
  rw [Bool.eq_iff_iff, decide_eq_true_iff, sameWord, beq_iff_eq, ← String.toList_inj,
    String.toLower, String.toLower, String.toList_map, String.toList_map]

end Text

/-- Reported types that differ at most in the case of their names. -/
structure RemoteType.Alike (r₁ r₂ : RemoteType) : Prop where
  typeCode : r₁.typeCode = r₂.typeCode
  size : r₁.size = r₂.size
  scale : r₁.scale = r₂.scale
  typeName : Text.sameWord r₁.typeName r₂.typeName = true

namespace RemoteType.Alike

variable {r₁ r₂ : RemoteType}

theorem isNamed (h : r₁.Alike r₂) : r₁.isNamed = r₂.isNamed := by
  funext name
  rw [RemoteType.isNamed, Text.sameWord_eq_of_sameWord h.typeName, RemoteType.isNamed]

theorem upperName (h : r₁.Alike r₂) : r₁.upperName = r₂.upperName :=
  Text.toUpper_eq_of_sameWord h.typeName

/-- The common mapping does not read the name at all. -/
theorem commonType (h : r₁.Alike r₂) (fallback : NumericFallback) :
    RemoteQuery.commonType r₁ fallback = RemoteQuery.commonType r₂ fallback := by
  rw [RemoteQuery.commonType, RemoteQuery.commonType, h.typeCode, h.size, h.scale]

end RemoteType.Alike

/-- Columns of one type whose native type names differ at most in case. -/
structure ColumnMetadata.Alike (c₁ c₂ : ColumnMetadata) : Prop where
  dataType : c₁.dataType = c₂.dataType
  typeName : Text.sameWord c₁.typeName c₂.typeName = true

namespace ColumnMetadata.Alike

variable {c₁ c₂ : ColumnMetadata}

theorem isNative (h : c₁.Alike c₂) : c₁.isNative = c₂.isNative := by
  funext name
  rw [ColumnMetadata.isNative, Text.sameWord_eq_of_sameWord h.typeName, ColumnMetadata.isNative]

theorem nativeUpper (h : c₁.Alike c₂) : c₁.nativeUpper = c₂.nativeUpper :=
  Text.toUpper_eq_of_sameWord h.typeName

end ColumnMetadata.Alike

namespace Dialect

/-! ## the tests of the dialects -/

section

variable {a b : String} (h : Text.sameWord a b = true)

include h

theorem Db2.isBitData_eq : Db2.isBitData a = Db2.isBitData b := by
  rw [Db2.isBitData, Text.toUpper_eq_of_sameWord h, Db2.isBitData]

theorem Hive.isComplex_eq : Hive.isComplex a = Hive.isComplex b := by
  rw [Hive.isComplex, Text.toLower_eq_of_sameWord h, Hive.isComplex]

theorem MySql.isSpatial_eq : MySql.isSpatial a = MySql.isSpatial b := by
  rw [MySql.isSpatial, Text.sameWord_eq_of_sameWord h, MySql.isSpatial]

theorem PostgreSql.isTextCastable_eq :
    PostgreSql.isTextCastable a = PostgreSql.isTextCastable b := by
  rw [PostgreSql.isTextCastable, Text.sameWord_eq_of_sameWord h, PostgreSql.isTextCastable]

theorem Sybase.untransportable?_eq : Sybase.untransportable? a = Sybase.untransportable? b := by
  simp only [Sybase.untransportable?, Text.sameWord_comm _ a, Text.sameWord_comm _ b,
    Text.sameWord_eq_of_sameWord h]

theorem Teradata.textSize?_eq : Teradata.textSize? a = Teradata.textSize? b := by
  rw [Teradata.textSize?, Text.toUpper_eq_of_sameWord h, Teradata.textSize?]

theorem Teradata.isGeometry_eq : Teradata.isGeometry a = Teradata.isGeometry b := by
  rw [Teradata.isGeometry, Text.sameWord_eq_of_sameWord h, Text.toUpper_eq_of_sameWord h,
    Teradata.isGeometry]

end

/-! ## the tables of the dialects -/

variable {d : Dialect} {p : Properties} {t : Target}

/-- The claims of a dialect do not read the case of a name. -/
theorem claimType_eq (ht : d.target p = .ok t) {r₁ r₂ : RemoteType} (h : r₁.Alike r₂) :
    t.claimType r₁ = t.claimType r₂ := by
  cases d with
  | generic =>
    obtain ⟨_, _, _, _, _, _, rfl⟩ := Generic.exists_of_target ht
    rfl
  | oracle =>
    obtain ⟨override, rfl⟩ := Oracle.exists_of_target ht
    change Oracle.claimType override r₁ = Oracle.claimType override r₂
    rw [Oracle.claimType, Oracle.claimType, h.typeCode, h.size, h.scale, h.isNamed, h.upperName]
  | athena =>
    cases ht
    change Athena.claimType r₁ = Athena.claimType r₂
    rw [Athena.claimType, Athena.claimType, h.isNamed]
  | db2 =>
    cases ht
    change Db2.claimType r₁ = Db2.claimType r₂
    rw [Db2.claimType, Db2.claimType, h.typeCode, h.size, h.isNamed, Db2.isBitData_eq h.typeName]
  | hive =>
    cases ht
    change Hive.claimType r₁ = Hive.claimType r₂
    rw [Hive.claimType, Hive.claimType, h.typeCode, Hive.isComplex_eq h.typeName]
  | impala =>
    cases ht
    change Impala.claimType r₁ = Impala.claimType r₂
    rw [Impala.claimType, Impala.claimType, h.isNamed]
  | mySql =>
    cases ht
    change MySql.claimType r₁ = MySql.claimType r₂
    rw [MySql.claimType, MySql.claimType, h.typeCode, h.size, h.isNamed,
      MySql.isSpatial_eq h.typeName]
  | native =>
    cases ht
    change Native.claimType r₁ = Native.claimType r₂
    rw [Native.claimType, Native.claimType, h.size, h.scale, h.upperName]
  | postgreSql =>
    cases ht
    change PostgreSql.claimType r₁ = PostgreSql.claimType r₂
    rw [PostgreSql.claimType, PostgreSql.claimType, h.typeCode, h.size, h.isNamed,
      PostgreSql.isTextCastable_eq h.typeName]
  | redshift =>
    cases ht
    change Redshift.claimType r₁ = Redshift.claimType r₂
    rw [Redshift.claimType, Redshift.claimType, h.typeCode, h.isNamed]
  | sqlServer =>
    cases ht
    change SqlServer.claimType r₁ = SqlServer.claimType r₂
    rw [SqlServer.claimType, SqlServer.claimType, h.typeCode, h.isNamed]
  | sybase =>
    cases ht
    change Sybase.claimType r₁ = Sybase.claimType r₂
    rw [Sybase.claimType, Sybase.claimType, Sybase.untransportable?_eq h.typeName]
  | teradata =>
    cases ht
    change Teradata.claimType r₁ = Teradata.claimType r₂
    rw [Teradata.claimType, Teradata.claimType, h.typeCode, Teradata.isGeometry_eq h.typeName,
      Teradata.textSize?_eq h.typeName]

/-- The transport forms of a dialect do not read the case of a name. -/
theorem transportForm_eq (ht : d.target p = .ok t) {c₁ c₂ : ColumnMetadata} (h : c₁.Alike c₂)
    (sql : String) : t.transportForm c₁ sql = t.transportForm c₂ sql := by
  cases d with
  | generic =>
    obtain ⟨_, _, _, _, _, _, rfl⟩ := Generic.exists_of_target ht
    rfl
  | oracle =>
    obtain ⟨override, rfl⟩ := Oracle.exists_of_target ht
    change Oracle.transportForm override c₁ sql = Oracle.transportForm override c₂ sql
    rw [Oracle.transportForm, Oracle.transportForm, h.dataType, h.nativeUpper]
  | impala | native => cases ht; rfl
  | athena =>
    cases ht
    change Athena.transportForm c₁ sql = Athena.transportForm c₂ sql
    rw [Athena.transportForm, Athena.transportForm, h.isNative]
  | db2 =>
    cases ht
    change Db2.transportForm c₁ sql = Db2.transportForm c₂ sql
    rw [Db2.transportForm, Db2.transportForm, h.nativeUpper]
  | hive =>
    cases ht
    change Hive.transportForm c₁ sql = Hive.transportForm c₂ sql
    rw [Hive.transportForm, Hive.transportForm, h.isNative]
  | mySql =>
    cases ht
    change MySql.transportForm c₁ sql = MySql.transportForm c₂ sql
    rw [MySql.transportForm, MySql.transportForm, h.dataType, h.isNative,
      MySql.isSpatial_eq h.typeName]
  | postgreSql =>
    cases ht
    change PostgreSql.transportForm c₁ sql = PostgreSql.transportForm c₂ sql
    rw [PostgreSql.transportForm, PostgreSql.transportForm, h.dataType, h.isNative,
      PostgreSql.isTextCastable_eq h.typeName]
  | redshift =>
    cases ht
    change Redshift.transportForm c₁ sql = Redshift.transportForm c₂ sql
    rw [Redshift.transportForm, Redshift.transportForm, h.isNative]
  | sqlServer =>
    cases ht
    change SqlServer.transportForm c₁ sql = SqlServer.transportForm c₂ sql
    rw [SqlServer.transportForm, SqlServer.transportForm, Text.toLower_eq_of_sameWord h.typeName]
  | sybase =>
    cases ht
    change Sybase.transportForm c₁ sql = Sybase.transportForm c₂ sql
    rw [Sybase.transportForm, Sybase.transportForm, Sybase.untransportable?_eq h.typeName]
  | teradata =>
    cases ht
    change Teradata.transportForm c₁ sql = Teradata.transportForm c₂ sql
    rw [Teradata.transportForm, Teradata.transportForm, Teradata.isGeometry_eq h.typeName,
      Teradata.textSize?_eq h.typeName]

/-- **The case of native type names is not read**: in every built dialect, reported types that
differ in the case of their names are mapped to one type, and columns of one type whose native type
names differ in case are transported in one form. -/
theorem mapType_eq_and_transportForm_eq (ht : d.target p = .ok t) :
    (∀ r₁ r₂ : RemoteType, r₁.Alike r₂ → t.mapType r₁ = t.mapType r₂) ∧
      ∀ c₁ c₂ : ColumnMetadata, c₁.Alike c₂ →
        ∀ sql, t.transportForm c₁ sql = t.transportForm c₂ sql := by
  refine ⟨fun r₁ r₂ h => ?_, fun c₁ c₂ h sql => transportForm_eq ht h sql⟩
  rw [Target.mapType, claimType_eq ht h, h.commonType, Target.mapType]

/-- Geometries of a database, which are found by the end of the name. -/
theorem mapType_eq_and_transportForm_eq_stGeometry :
    Teradata.target.mapType ⟨TypeCode.other, 0, 0, "SysUdtLib.st_geometry"⟩ = .geometry 0 ∧
      Teradata.target.transportForm ⟨"shape", .geometry 0, "SysUdtLib.st_geometry"⟩ "c" =
        some "c.ST_AsText()" := by
  obtain ⟨htype, hform⟩ :=
    mapType_eq_and_transportForm_eq (d := .teradata) (p := {}) (t := Teradata.target) rfl
  have hname : Text.sameWord "SysUdtLib.st_geometry" "SYSUDTLIB.ST_GEOMETRY" = true := by
    rw [Text.sameWord_eq_decide]
    decide +kernel
  have htypes := htype ⟨TypeCode.other, 0, 0, "SysUdtLib.st_geometry"⟩
    ⟨TypeCode.other, 0, 0, "SYSUDTLIB.ST_GEOMETRY"⟩ ⟨rfl, rfl, rfl, hname⟩
  have hforms := hform ⟨"shape", .geometry 0, "SysUdtLib.st_geometry"⟩
    ⟨"shape", .geometry 0, "SYSUDTLIB.ST_GEOMETRY"⟩ ⟨rfl, hname⟩ "c"
  exact ⟨htypes.trans (by decide +kernel), hforms.trans (by decide +kernel)⟩

/-! ## claims and transport -/

section

variable (r : RemoteType) (type : CanonicalType) (column sql : String)

/-- A column has the native type name that was reported for it. -/
theorem isNative_eq_isNamed (name : String) :
    ColumnMetadata.isNative ⟨column, type, r.typeName⟩ name = r.isNamed name :=
  rfl

/-- Documents are claimed and formatted by one name. -/
theorem Athena.isSome_claimType_iff :
    (Athena.claimType r).isSome ↔
      (Athena.transportForm ⟨column, type, r.typeName⟩ sql).isSome := by
  rw [Athena.claimType, Athena.transportForm, isNative_eq_isNamed]
  cases r.isNamed "json" <;> simp

/-- Zoned timestamps are the one claim whose columns travel as they are. -/
theorem Redshift.exists_claimType_iff :
    (∃ claimed, Redshift.claimType r = some claimed ∧ ∀ zoned, claimed ≠ .timestamp zoned) ↔
      (Redshift.transportForm ⟨column, type, r.typeName⟩ sql).isSome := by
  rw [Redshift.claimType, Redshift.transportForm, isNative_eq_isNamed, isNative_eq_isNamed]
  by_cases hsuper : r.isNamed "super" = true
  · simp [hsuper, CanonicalType.maxVarchar]
  by_cases hshape : r.isNamed "geometry" = true
  · simp [hsuper, hshape]
  by_cases hzoned : r.typeCode = TypeCode.timestamp ∧ r.isNamed "timestamptz" = true
  · simp [hsuper, hshape, hzoned]
  · simp [hsuper, hshape, hzoned]

/-! ### markers -/

theorem Sybase.isSome_claimType_iff :
    (Sybase.claimType r).isSome ↔
      (Sybase.transportForm ⟨column, type, r.typeName⟩ sql).isSome := by
  rw [Sybase.claimType, Sybase.transportForm, Option.isSome_map, Option.isSome_map]

/-- A marker is written between quotes as it is, for there are none in it. -/
theorem Sybase.stringLiteral_marker {s name : String}
    (h : Sybase.untransportable? s = some name) :
    Text.stringLiteral (Sybase.marker name) = "'" ++ Sybase.marker name ++ "'" ∧
      '\'' ∉ (Sybase.marker name).toList := by
  have hmarkers : ∀ n ∈ ["image", "binary", "varbinary", "timestamp"],
      Text.stringLiteral (Sybase.marker n) = "'" ++ Sybase.marker n ++ "'" ∧
        '\'' ∉ (Sybase.marker n).toList := by decide +kernel
  exact hmarkers name (List.mem_of_find?_eq_some h)

/-- The claimed text is as long as the marker that its columns are replaced by. -/
theorem Sybase.exists_marker {claimed : CanonicalType} (h : Sybase.claimType r = some claimed) :
    ∃ size charset text, claimed = .varchar size charset ∧
      Sybase.transportForm ⟨column, type, r.typeName⟩ sql = some ("'" ++ text ++ "'") ∧
      '\'' ∉ text.toList ∧ size.toNat = text.length := by
  rw [Sybase.claimType, Option.map_eq_some_iff] at h
  obtain ⟨name, hname, rfl⟩ := h
  obtain ⟨hliteral, hquotes⟩ := Sybase.stringLiteral_marker hname
  obtain ⟨size, hclaim, hsize⟩ :=
    CanonicalType.exists_cappedVarchar (Sybase.marker name).length .utf8
  have hshort := Sybase.length_marker hname
  have hlong : 0 < (Sybase.marker name).length := by
    rw [Sybase.marker, String.length_append]
    exact Nat.lt_add_left _ (by decide)
  refine ⟨size, .utf8, Sybase.marker name, hclaim, ?_, hquotes, ?_⟩
  · rw [Sybase.transportForm, hname, Option.map_some, hliteral]
  · rw [if_neg (by omega)] at hsize
    omega

/-! ### texts of named types -/

/-- The text a named type travels in is one of the type system. -/
theorem Teradata.exists_varchar_of_textSize? {name : String} {n : Nat}
    (h : Teradata.textSize? name = some n) :
    ∃ size : UInt32, CanonicalType.cappedVarchar n .utf8 = .varchar size .utf8 ∧
      size.toNat = n := by
  have hbound : 0 < n ∧ n ≤ 2000000 := by
    unfold Teradata.textSize? at h
    grind [Teradata.documentTextSize, Teradata.intervalTextSize, Teradata.periodTextSize]
  obtain ⟨size, hvarchar, hsize⟩ := CanonicalType.exists_cappedVarchar n .utf8
  rw [if_neg (by omega)] at hsize
  exact ⟨size, hvarchar, by omega⟩

/-- A cast shows the width it casts to. -/
theorem Teradata.cast_varchar_inj {m n : Nat} :
    Calls.cast sql ("VARCHAR(" ++ toString m ++ ")") =
        Calls.cast sql ("VARCHAR(" ++ toString n ++ ")") ↔ m = n := by
  simp [Calls.cast, String.append_right_inj, String.append_left_inj]

/-- No cast is the text of a geometry, which is too short for one. -/
theorem Teradata.asText_ne_cast (n : Nat) :
    sql ++ ".ST_AsText()" ≠ Calls.cast sql ("VARCHAR(" ++ toString n ++ ")") := by
  intro h
  have hlength := congrArg (·.toList.length) h
  simp [Calls.cast] at hlength

/-- Types of other kinds are supported exactly where their columns are wrapped, and the width of a
text is the same on both sides. -/
theorem Teradata.claimType_other (hcode : r.typeCode = TypeCode.other) :
    ∃ claimed, Teradata.claimType r = some claimed ∧
      (claimed.isSupported ↔
        (Teradata.transportForm ⟨column, type, r.typeName⟩ sql).isSome) ∧
      ∀ n, Teradata.transportForm ⟨column, type, r.typeName⟩ sql =
          some (Calls.cast sql ("VARCHAR(" ++ toString n ++ ")")) ↔
        ∃ size charset, claimed = .varchar size charset ∧ size.toNat = n := by
  rw [Teradata.claimType, if_neg (not_not.2 hcode), Teradata.transportForm]
  by_cases hshape : Teradata.isGeometry r.typeName = true
  · rw [if_pos hshape, if_pos hshape]
    refine ⟨_, rfl, by simp [CanonicalType.isSupported], fun n => ?_⟩
    simpa using Teradata.asText_ne_cast sql n
  · rw [if_neg hshape, if_neg hshape]
    cases htext : Teradata.textSize? r.typeName with
    | none => exact ⟨_, rfl, by simp [CanonicalType.isSupported], by simp⟩
    | some m =>
      obtain ⟨size, hvarchar, hsize⟩ := Teradata.exists_varchar_of_textSize? htext
      refine ⟨_, rfl, by simp [hvarchar, CanonicalType.isSupported], fun n => ?_⟩
      simpa [hvarchar, hsize] using Teradata.cast_varchar_inj sql (m := m) (n := n)

/-! ### bit strings -/

/-- Bit strings are numbers in the select list exactly where their type is a decimal. -/
theorem MySql.transportForm_bit (hname : r.isNamed "BIT" = true) :
    MySql.transportForm ⟨column, type, r.typeName⟩ sql = some (Calls.cast sql "UNSIGNED") ↔
      ∃ precision scale, type = .decimal precision scale := by
  have hspatial : MySql.isSpatial r.typeName = false := by
    rw [MySql.isSpatial_eq hname, MySql.isSpatial, Text.sameWord_eq_decide]
    decide +kernel
  have hyear : r.isNamed "YEAR" = false := by
    rw [RemoteType.isNamed, Text.sameWord_eq_of_sameWord hname, Text.sameWord_eq_decide]
    decide +kernel
  rw [MySql.transportForm, isNative_eq_isNamed, isNative_eq_isNamed, hname, hyear]
  cases type <;> simp [hspatial, MySql.isDecimal]

end

/-- **Claims and transport are in step**: a column has the type its reported type is mapped to and
the name that was reported with it.  Documents and types without a transportable form are claimed
exactly where their columns are wrapped, and so is every claim but a timestamp's in Redshift.  Of
the types of other kinds in Teradata the supported ones are wrapped, and the width in a cast is the
size of the type; the marker in Sybase is as long as the claimed text; a bit string in MySQL is a
number in the select list exactly where its type is a decimal. -/
theorem transported_in_step (ht : d.target p = .ok t) (r : RemoteType) (column sql : String) :
    let form := t.transportForm ⟨column, t.mapType r, r.typeName⟩ sql
    (d = .athena ∨ d = .sybase → ((t.claimType r).isSome ↔ form.isSome)) ∧
      (d = .redshift →
        ((∃ claimed, t.claimType r = some claimed ∧ ∀ zoned, claimed ≠ .timestamp zoned) ↔
          form.isSome)) ∧
      (d = .teradata → r.typeCode = TypeCode.other →
        ((t.mapType r).isSupported ↔ form.isSome) ∧
          ∀ n : Nat, form = some (Calls.cast sql ("VARCHAR(" ++ toString n ++ ")")) ↔
            ∃ size charset, t.mapType r = .varchar size charset ∧ size.toNat = n) ∧
      (d = .sybase → ∀ claimed, t.claimType r = some claimed →
        ∃ size charset text, claimed = .varchar size charset ∧
          form = some ("'" ++ text ++ "'") ∧ '\'' ∉ text.toList ∧ size.toNat = text.length) ∧
      (d = .mySql → r.typeCode = TypeCode.bit → r.isNamed "BIT" = true →
        (form = some (Calls.cast sql "UNSIGNED") ↔
          ∃ precision scale, t.mapType r = .decimal precision scale)) := by
  intro form
  refine ⟨?_, ?_, ?_, ?_, ?_⟩
  · rintro (rfl | rfl)
    · cases ht
      exact Athena.isSome_claimType_iff r _ column sql
    · cases ht
      exact Sybase.isSome_claimType_iff r _ column sql
  · rintro rfl
    cases ht
    exact Redshift.exists_claimType_iff r _ column sql
  · rintro rfl hcode
    cases ht
    obtain ⟨claimed, hclaim, hstep⟩ :=
      Teradata.claimType_other r (Teradata.target.mapType r) column sql hcode
    have htype : Teradata.target.mapType r = claimed := congrArg (Option.getD · _) hclaim
    rwa [htype]
  · rintro rfl claimed hclaim
    cases ht
    exact Sybase.exists_marker r _ column sql hclaim
  · rintro rfl - hname
    cases ht
    exact MySql.transportForm_bit r _ column sql hname

/-- Periods, whose texts have a hundred characters in the type and in the cast. -/
theorem transported_in_step_period :
    Teradata.target.mapType ⟨TypeCode.other, 0, 0, "PERIOD(DATE)"⟩ = .varchar 100 .utf8 ∧
      Teradata.target.transportForm ⟨"span", .varchar 100 .utf8, "PERIOD(DATE)"⟩ "c" =
        some "CAST(c AS VARCHAR(100))" := by
  have htype : Teradata.target.mapType ⟨TypeCode.other, 0, 0, "PERIOD(DATE)"⟩ =
      .varchar 100 .utf8 := by
    decide +kernel
  obtain ⟨-, -, hteradata, -, -⟩ := transported_in_step (d := .teradata) (p := {})
    (t := Teradata.target) rfl ⟨TypeCode.other, 0, 0, "PERIOD(DATE)"⟩ "span" "c"
  have hform := ((hteradata rfl rfl).2 100).2 ⟨100, .utf8, htype, by decide⟩
  rw [htype] at hform
  exact ⟨htype, hform.trans (by decide +kernel)⟩

end Dialect

end RemoteQuery
