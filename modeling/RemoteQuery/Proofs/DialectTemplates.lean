import RemoteQuery.Proofs.Built
import RemoteQuery.Proofs.Templated

/-!
# RemoteQuery.Proofs.DialectTemplates

Dialect by dialect: the rules of its target are templates, and those for calls
and literals hold together.

* `Dialect.templated` — so are the rules of every built target.
-/

namespace RemoteQuery.Dialect

open Assembled Calls Target

variable {Given : String → Prop} {f : ScalarFunction} {args : List String} {out : String}
  {col : ColumnMetadata} {sql : String} {c : AggregateText}

theorem closed_doublePrecision : Piece.closed [.fixed "DOUBLE PRECISION"] = true := rfl

/-- A target that differs from the plain one in its profile and its types only. -/
theorem templated_plain {profile : Profile} {claimType : RemoteType → Option CanonicalType}
    (hs : profile.scalarAliases = []) (ha : profile.aggregateAliases = [])
    (hd : Piece.closed [.fixed profile.doubleType] = true) :
    Templated { profile := profile, claimType := claimType } where
  transportForm _ h := nomatch h
  scalarForm _ h := nomatch h
  aggregateForm _ h := nomatch h
  scalarAliases := by simp [hs]
  aggregateAliases := by simp [ha]
  boolLiteral := delimited_boolWord
  dateLiteral := delimited_dateWord
  timestampLiteral := delimited_timestampWord
  intervalLiteral := delimited_standardInterval
  selectedNumber h := h
  doubleType := hd

/-! ## Athena -/

namespace Athena

theorem delimited_scalarForm (hargs : ∀ a ∈ args, Assembled Given a)
    (h : scalarForm f args = some out) : Delimited Given out := by
  unfold scalarForm at h
  split at h
  · cases h
    exact delimited_trimBoth hargs
  · cases h
    exact delimited_defaultedCall rfl (word rfl)
      (assembled_textArguments (fun _ ha => assembled_cast ha (word rfl)) hargs)
  · cases h
    exact delimited_defaultedCall rfl (word rfl) hargs
  · cases h
    exact delimited_defaultedCall rfl (word rfl) hargs
  · exact delimited_dateAdd hargs (fun _ => DateAdd.delimited_unitTextCall rfl) h

theorem delimited_aggregateForm (hc : c.PartsAssembled Given) (h : aggregateForm c = some out) :
    Delimited Given out := by
  unfold aggregateForm at h
  split at h
  next hf =>
    cases h
    refine .of_pieces [.fixed "ARRAY_JOIN(ARRAY_AGG(", .fixed c.distinctWord, .part c.arg,
      .fixed " ORDER BY ", .part c.orderOrSelf, .fixed "), ", .part c.separatorLiteral, .fixed ")"]
      (c.distinctWord_cases (fun word => Piece.delimits [_, .fixed word, _, _, _, _, _, _]) rfl rfl)
      rfl ?_
    simp only [Piece.contents, List.forall_mem_cons]
    exact ⟨hc.arg, hc.orderOrSelf, hc.separatorLiteral hf, by simp⟩
  · cases h

theorem assembled_transportForm (hsql : Assembled Given sql)
    (h : transportForm col sql = some out) : Assembled Given out := by
  unfold transportForm at h
  split at h
  · cases h
    exact assembled_call rfl (by simpa using hsql)
  · cases h

theorem templated : target.Templated where
  transportForm := assembled_transportForm
  scalarForm := delimited_scalarForm
  aggregateForm := delimited_aggregateForm
  scalarAliases := rfl
  aggregateAliases := rfl
  boolLiteral := delimited_boolWord
  dateLiteral := delimited_dateWord
  timestampLiteral := delimited_timestampWord
  intervalLiteral := delimited_standardInterval
  selectedNumber h := h
  doubleType := rfl

end Athena

/-! ## Db2 -/

namespace Db2

theorem delimited_scalarForm (hargs : ∀ a ∈ args, Assembled Given a)
    (h : scalarForm f args = some out) : Delimited Given out := by
  unfold scalarForm at h
  split at h
  · cases h
    exact delimited_trimBoth hargs
  · cases h
    exact delimited_operatorChain rfl hargs
  · cases h
    exact delimited_reversedCall rfl hargs
  · cases h
    exact delimited_defaultedCall rfl (word rfl) hargs
  · exact delimited_dateAdd hargs (fun _ => DateAdd.delimited_durationSum) h

theorem delimited_aggregateForm (hc : c.PartsAssembled Given) (h : aggregateForm c = some out) :
    Delimited Given out := by
  unfold aggregateForm at h
  split at h
  next hf =>
    cases h
    exact hc.listagg hf
  · cases h

theorem assembled_transportForm (hsql : Assembled Given sql)
    (h : transportForm col sql = some out) : Assembled Given out := by
  simp only [transportForm] at h
  split at h
  · cases h
    exact assembled_cast hsql (word rfl)
  split at h
  · cases h
    exact of_pieces [.fixed "XMLSERIALIZE(CONTENT ", .part sql, .fixed " AS CLOB)"] rfl rfl
      (by simpa [Piece.contents] using hsql)
  split at h
  · cases h
    exact assembled_call rfl (by simpa using hsql)
  split at h
  · cases h
    exact assembled_call rfl (by simpa using hsql)
  · cases h

theorem templated : target.Templated where
  transportForm := assembled_transportForm
  scalarForm := delimited_scalarForm
  aggregateForm := delimited_aggregateForm
  scalarAliases := rfl
  aggregateAliases := rfl
  boolLiteral := delimited_numericBool
  dateLiteral := delimited_dateWord
  timestampLiteral := delimited_timestampWord
  intervalLiteral := delimited_standardInterval
  selectedNumber h := h
  doubleType := rfl

end Db2

/-! ## Hive -/

namespace Hive

theorem delimited_scalarForm (hargs : ∀ a ∈ args, Assembled Given a)
    (h : scalarForm f args = some out) : Delimited Given out := by
  unfold scalarForm at h
  split at h
  · cases h
    exact delimited_defaultedCall rfl (word rfl) hargs
  · cases h
    exact delimited_defaultedCall rfl (word rfl) hargs
  · cases h
    exact delimited_defaultedCall rfl (word rfl) hargs
  · cases h
    exact delimited_operatorChain rfl hargs
  · cases h
    exact delimited_operatorChain rfl hargs
  · cases h
    exact delimited_operatorChain rfl hargs
  · cases h
    exact delimited_operatorChain rfl hargs
  · cases h
    exact delimited_operatorChain rfl hargs
  · exact delimited_dateAdd hargs (fun _ => DateAdd.delimited_intervalLiteral fun _ _ => rfl) h

theorem delimited_aggregateForm (hc : c.PartsAssembled Given) (h : aggregateForm c = some out) :
    Delimited Given out := by
  unfold aggregateForm at h
  split at h
  next hf =>
    cases h
    have hcollect : Assembled Given (if c.distinct then "COLLECT_SET" else "COLLECT_LIST") := by
      split <;> exact word rfl
    refine .of_pieces [.fixed "CONCAT_WS(", .part c.separatorLiteral, .fixed ", ", .part _,
      .fixed "(", .part c.arg, .fixed "))"] rfl rfl ?_
    simp only [Piece.contents, List.forall_mem_cons]
    exact ⟨hc.separatorLiteral hf, hcollect, hc.arg, by simp⟩
  · cases h

theorem assembled_transportForm (hsql : Assembled Given sql)
    (h : transportForm col sql = some out) : Assembled Given out := by
  unfold transportForm at h
  split at h
  · cases h
    exact assembled_call rfl (by simpa using hsql)
  · cases h

theorem templated : target.Templated where
  transportForm := assembled_transportForm
  scalarForm := delimited_scalarForm
  aggregateForm := delimited_aggregateForm
  scalarAliases := rfl
  aggregateAliases := rfl
  boolLiteral := delimited_boolWord
  dateLiteral := delimited_dateWord
  timestampLiteral := delimited_timestampWord
  intervalLiteral := delimited_standardInterval
  selectedNumber h := h
  doubleType := rfl

end Hive

/-! ## Impala -/

namespace Impala

theorem delimited_scalarForm (hargs : ∀ a ∈ args, Assembled Given a)
    (h : scalarForm f args = some out) : Delimited Given out := by
  unfold scalarForm at h
  split at h
  · cases h
    exact delimited_defaultedCall rfl (word rfl) hargs
  · cases h
    exact delimited_defaultedCall rfl (word rfl) hargs
  · cases h
    exact delimited_defaultedCall rfl (word rfl) hargs
  · cases h
    exact delimited_operatorChain rfl hargs
  · cases h
    exact delimited_call rfl
      (assembled_textArguments (fun _ ha => assembled_cast ha (word rfl)) hargs)
  · cases h

theorem delimited_aggregateForm (hc : c.PartsAssembled Given) (h : aggregateForm c = some out) :
    Delimited Given out := by
  unfold aggregateForm at h
  split at h
  next hf =>
    cases h
    refine .of_pieces [.fixed "GROUP_CONCAT(", .fixed c.distinctWord, .part c.arg, .fixed ", ",
      .part c.separatorLiteral, .fixed ")"]
      (c.distinctWord_cases (fun word => Piece.delimits [_, .fixed word, _, _, _, _]) rfl rfl) rfl ?_
    simp only [Piece.contents, List.forall_mem_cons]
    exact ⟨hc.arg, hc.separatorLiteral hf, by simp⟩
  · cases h

theorem templated : target.Templated where
  transportForm _ h := nomatch h
  scalarForm := delimited_scalarForm
  aggregateForm := delimited_aggregateForm
  scalarAliases := rfl
  aggregateAliases := rfl
  boolLiteral := delimited_boolWord
  dateLiteral := delimited_dateWord
  timestampLiteral := delimited_timestampWord
  intervalLiteral := delimited_standardInterval
  selectedNumber h := h
  doubleType := rfl

end Impala

/-! ## MySql -/

namespace MySql

theorem delimited_scalarForm (hargs : ∀ a ∈ args, Assembled Given a)
    (h : scalarForm f args = some out) : Delimited Given out := by
  unfold scalarForm at h
  split at h
  · cases h
    exact delimited_trimBoth hargs
  · cases h
    exact delimited_trimOneSide rfl (word rfl) hargs
  · cases h
    exact delimited_trimOneSide rfl (word rfl) hargs
  · cases h
    exact delimited_defaultedCall rfl (word rfl) hargs
  · cases h
    exact delimited_defaultedCall rfl (word rfl) hargs
  · cases h
    exact delimited_defaultedCall rfl (word rfl) hargs
  · cases h
    exact delimited_defaultedCall rfl (word rfl) hargs
  · cases h
    exact delimited_operatorChain rfl hargs
  · cases h
    exact delimited_operatorChain rfl hargs
  · cases h
    exact delimited_operatorChain rfl hargs
  · cases h
    exact delimited_operatorChain rfl hargs
  · exact delimited_dateAdd hargs (fun _ => DateAdd.delimited_intervalCall rfl) h

theorem assembled_transportForm (hsql : Assembled Given sql)
    (h : transportForm col sql = some out) : Assembled Given out := by
  unfold transportForm at h
  split at h
  · cases h
    exact assembled_call rfl (by simpa using hsql)
  split at h
  · cases h
    exact assembled_cast hsql (word rfl)
  · cases h

theorem templated : target.Templated where
  transportForm := assembled_transportForm
  scalarForm := delimited_scalarForm
  aggregateForm _ h := nomatch h
  scalarAliases := rfl
  aggregateAliases := rfl
  boolLiteral := delimited_numericBool
  dateLiteral := delimited_dateWord
  timestampLiteral := delimited_timestampWord
  intervalLiteral := delimited_standardInterval
  selectedNumber h := h
  doubleType := rfl

end MySql

/-! ## PostgreSql -/

namespace PostgreSql

theorem delimited_scalarForm (hargs : ∀ a ∈ args, Assembled Given a)
    (h : scalarForm f args = some out) : Delimited Given out := by
  unfold scalarForm at h
  split at h
  · cases h
    exact delimited_trimBoth hargs
  · cases h
    exact delimited_operatorChain rfl hargs
  · cases h
    exact delimited_operatorChain rfl hargs
  · cases h
    exact delimited_operatorChain rfl hargs
  · cases h
    exact delimited_defaultedCall rfl (word rfl) hargs
  · cases h
    exact delimited_extractField (word rfl) hargs
  · cases h
    exact delimited_extractField (word rfl) hargs
  · cases h
    exact delimited_extractField (word rfl) hargs
  · exact delimited_dateAdd hargs (fun _ => DateAdd.delimited_intervalLiteral fun _ _ => rfl) h

theorem delimited_aggregateForm (hc : c.PartsAssembled Given) (h : aggregateForm c = some out) :
    Delimited Given out := by
  unfold aggregateForm at h
  split at h
  · cases h
    exact .of_pieces
      [.fixed "PERCENTILE_CONT(0.5) WITHIN GROUP (ORDER BY ", .part c.arg, .fixed ")"] rfl rfl
      (by simpa [Piece.contents] using hc.arg)
  next hf =>
    cases h
    refine .of_pieces [.fixed "STRING_AGG(", .fixed c.distinctWord, .part (cast c.arg "TEXT"),
      .fixed ", ", .part c.separatorLiteral, .fixed " ORDER BY ", .part c.orderOrSelf, .fixed ")"]
      (c.distinctWord_cases (fun word => Piece.delimits [_, .fixed word, _, _, _, _, _, _]) rfl rfl)
      rfl ?_
    simp only [Piece.contents, List.forall_mem_cons]
    exact ⟨assembled_cast hc.arg (word rfl), hc.separatorLiteral hf, hc.orderOrSelf, by simp⟩
  · cases h

theorem assembled_transportForm (hsql : Assembled Given sql)
    (h : transportForm col sql = some out) : Assembled Given out := by
  unfold transportForm at h
  split at h
  · cases h
    exact assembled_cast hsql (word rfl)
  split at h
  · cases h
    exact assembled_cast hsql (word rfl)
  split at h
  · cases h
    exact assembled_call rfl (by simpa using hsql)
  · cases h

theorem templated : target.Templated where
  transportForm := assembled_transportForm
  scalarForm := delimited_scalarForm
  aggregateForm := delimited_aggregateForm
  scalarAliases := rfl
  aggregateAliases := rfl
  boolLiteral := delimited_boolWord
  dateLiteral := delimited_dateWord
  timestampLiteral := delimited_timestampWord
  intervalLiteral := delimited_standardInterval
  selectedNumber h := h
  doubleType := rfl

end PostgreSql

/-! ## Redshift -/

namespace Redshift

theorem delimited_scalarForm (hargs : ∀ a ∈ args, Assembled Given a)
    (h : scalarForm f args = some out) : Delimited Given out := by
  unfold scalarForm at h
  split at h
  · cases h
    exact delimited_trimBoth hargs
  · cases h
    exact delimited_operatorChain rfl
      (assembled_textArguments (fun _ ha => assembled_cast ha (word rfl)) hargs)
  · cases h
    exact delimited_operatorChain rfl hargs
  · cases h
    exact delimited_operatorChain rfl hargs
  · cases h
    exact delimited_operatorChain rfl hargs
  · cases h
    exact delimited_defaultedCall rfl (word rfl) hargs
  · cases h
    exact delimited_extractField (word rfl) hargs
  · cases h
    exact delimited_extractField (word rfl) hargs
  · cases h
    exact delimited_extractField (word rfl) hargs
  · exact delimited_dateAdd hargs (fun _ => DateAdd.delimited_unitFirstCall rfl) h

theorem delimited_aggregateForm (hc : c.PartsAssembled Given) (h : aggregateForm c = some out) :
    Delimited Given out := by
  unfold aggregateForm at h
  split at h
  next hf =>
    cases h
    exact hc.listagg hf
  · cases h

theorem assembled_transportForm (hsql : Assembled Given sql)
    (h : transportForm col sql = some out) : Assembled Given out := by
  unfold transportForm at h
  split at h
  · cases h
    exact assembled_call rfl (by simpa using hsql)
  split at h
  · cases h
    exact assembled_call rfl (by simpa using hsql)
  · cases h

theorem templated : target.Templated where
  transportForm := assembled_transportForm
  scalarForm := delimited_scalarForm
  aggregateForm := delimited_aggregateForm
  scalarAliases := rfl
  aggregateAliases := rfl
  boolLiteral := delimited_boolWord
  dateLiteral := delimited_dateWord
  timestampLiteral := delimited_timestampWord
  intervalLiteral := delimited_standardInterval
  selectedNumber h := h
  doubleType := rfl

end Redshift

/-! ## Oracle -/

namespace Oracle

theorem delimited_dateAdd {a : DateAdd} (hvalue : Assembled Given a.value)
    (hamount : Assembled Given a.amount) : Delimited Given (dateAdd a) := by
  have hsum : ∀ {amount : String}, Assembled Given amount →
      Delimited Given ("(" ++ a.value ++ " + " ++ amount ++ ")") := by
    intro amount h
    exact .of_pieces [.fixed "(", .part a.value, .fixed " + ", .part amount, .fixed ")"] rfl rfl
      (by simp [Piece.contents, hvalue, h])
  have hclock : Delimited Given ("(" ++ a.value ++ " + NUMTODSINTERVAL(" ++ a.amount ++ ", '" ++
      a.unit.keyword ++ "'))") := by
    refine .template [.fixed "(", .part a.value, .fixed " + NUMTODSINTERVAL(", .part a.amount,
      .fixed ", '", .quoted a.unit.keyword, .fixed "'))"] rfl ?_ ?_
    · simp [Piece.contents, hvalue, hamount]
    · simp only [Piece.inner, List.forall_mem_singleton]
      cases a.unit <;> decide
  unfold dateAdd
  split
  · exact hsum hamount
  · exact hsum (assembled_multiplied 7 hamount)
  · exact hclock
  · exact hclock
  · exact hclock
  · exact delimited_call rfl (by simp [hvalue, hamount])
  · exact delimited_call rfl (by simp [hvalue, assembled_multiplied 12 hamount])

theorem delimited_scalarForm (hargs : ∀ a ∈ args, Assembled Given a)
    (h : scalarForm f args = some out) : Delimited Given out := by
  unfold scalarForm at h
  split at h
  · cases h
    exact delimited_trimBoth hargs
  · cases h
    exact delimited_floorQuotient (word rfl) hargs
  · cases h
    exact delimited_call rfl hargs
  next a b =>
    cases h
    obtain ⟨ha, hb⟩ : Assembled Given a ∧ Assembled Given b := by simpa using hargs
    exact .of_pieces [.fixed "(", .part a, .fixed " + ", .part b, .fixed " - BITAND(", .part a,
      .fixed ", ", .part b, .fixed "))"] rfl rfl (by simp [Piece.contents, ha, hb])
  next a b =>
    cases h
    obtain ⟨ha, hb⟩ : Assembled Given a ∧ Assembled Given b := by simpa using hargs
    exact .of_pieces [.fixed "(", .part a, .fixed " + ", .part b, .fixed " - 2 * BITAND(", .part a,
      .fixed ", ", .part b, .fixed "))"] rfl rfl (by simp [Piece.contents, ha, hb])
  · cases h
    exact delimited_operatorChain rfl hargs
  · cases h
    exact delimited_extractField (word rfl) hargs
  · cases h
    exact delimited_extractField (word rfl) hargs
  · cases h
    exact delimited_extractField (word rfl) hargs
  · exact Calls.delimited_dateAdd hargs (fun _ => delimited_dateAdd) h

theorem delimited_aggregateForm (hc : c.PartsAssembled Given) (h : aggregateForm c = some out) :
    Delimited Given out := by
  unfold aggregateForm at h
  split at h
  next hf =>
    cases h
    exact hc.listagg hf
  · cases h

variable {override : Option DecimalOverride}

theorem assembled_transportNumber {type : CanonicalType} (hsql : Assembled Given sql)
    (h : transportNumber override type sql = some out) : Assembled Given out := by
  unfold transportNumber at h
  split at h
  next p s =>
    split at h
    · cases h
      refine assembled_cast hsql (of_pieces [.fixed "DECIMAL(", .part (toString p.toNat),
        .fixed ", ", .part (toString s.toNat), .fixed ")"] rfl rfl ?_)
      simp only [Piece.contents, List.forall_mem_cons]
      exact ⟨assembled_nat _, assembled_nat _, by simp⟩
    · cases h
  · cases h
    exact assembled_call rfl (by simpa using hsql)
  · cases h

theorem assembled_transportForm (hsql : Assembled Given sql)
    (h : transportForm override col sql = some out) : Assembled Given out := by
  simp only [transportForm] at h
  split at h
  · exact assembled_transportNumber hsql h
  split at h
  · cases h
    exact assembled_call rfl (by simpa using hsql)
  split at h
  · cases h
    exact assembled_call rfl (by simpa using hsql)
  split at h
  · cases h
    exact assembled_call rfl (by simpa using hsql)
  split at h
  · cases h
    exact assembled_cast hsql (word rfl)
  split at h
  · cases h
    exact assembled_call rfl (by simpa using hsql)
  split at h
  · cases h
    exact assembled_call rfl (by simpa using hsql)
  · cases h

theorem templated : (targetOf override).Templated where
  transportForm := assembled_transportForm
  scalarForm := delimited_scalarForm
  aggregateForm := delimited_aggregateForm
  scalarAliases := by simp [targetOf, profile]
  aggregateAliases := by simp [targetOf, profile]
  boolLiteral := delimited_numericBool
  dateLiteral := delimited_dateWord
  timestampLiteral := delimited_timestampWord
  intervalLiteral := delimited_standardInterval
  selectedNumber h := assembled_call rfl (by simpa using h)
  doubleType := closed_doublePrecision

end Oracle

/-! ## SqlServer -/

namespace SqlServer

theorem delimited_familyForm (hargs : ∀ a ∈ args, Assembled Given a)
    (h : familyForm f args = some out) : Delimited Given out := by
  unfold familyForm at h
  split at h
  · cases h
    exact delimited_defaultedCall rfl (word rfl) hargs
  · cases h
    exact delimited_reversedCall rfl hargs
  · cases h
    exact delimited_defaultedCall rfl (word rfl) hargs
  · cases h
    exact delimited_defaultedCall rfl (word rfl) hargs
  · cases h
    exact delimited_operatorChain rfl hargs
  · cases h
    exact delimited_floorQuotient (word rfl) hargs
  · cases h
    exact delimited_operatorChain rfl hargs
  · cases h
    exact delimited_operatorChain rfl hargs
  · cases h
    exact delimited_operatorChain rfl hargs
  · exact delimited_dateAdd hargs (fun _ => DateAdd.delimited_unitFirstCall rfl) h

theorem delimited_ownForm (hargs : ∀ a ∈ args, Assembled Given a)
    (h : ownForm f args = some out) : Delimited Given out := by
  have hzero : Assembled Given "0" := word rfl
  have hone : Assembled Given "1" := word rfl
  unfold ownForm at h
  split at h
  · cases h
    exact delimited_trimBoth hargs
  · cases h
    exact delimited_call rfl (by simpa [hzero, hone] using hargs)
  · cases h
    exact delimited_call rfl (by simpa [hone] using hargs)
  · cases h
    exact .word rfl
  · cases h
    exact delimited_defaultedCall rfl (word rfl) hargs
  · cases h

theorem delimited_scalarForm (hargs : ∀ a ∈ args, Assembled Given a)
    (h : scalarForm f args = some out) : Delimited Given out := by
  simp only [scalarForm, Option.orElse_eq_orElse, Option.orElse_eq_or,
    Option.or_eq_some_iff] at h
  obtain h | ⟨-, h⟩ := h
  · exact delimited_familyForm hargs h
  · exact delimited_ownForm hargs h

theorem delimited_aggregateForm (hc : c.PartsAssembled Given) (h : aggregateForm c = some out) :
    Delimited Given out := by
  unfold aggregateForm at h
  split at h
  next hf =>
    cases h
    refine .of_pieces [.fixed "STRING_AGG(", .part (cast c.arg "NVARCHAR(MAX)"), .fixed ", ",
      .part c.separatorLiteral, .fixed ") WITHIN GROUP (ORDER BY ", .part c.orderOrSelf, .fixed ")"]
      rfl rfl ?_
    simp only [Piece.contents, List.forall_mem_cons]
    exact ⟨assembled_cast hc.arg (word rfl), hc.separatorLiteral hf, hc.orderOrSelf, by simp⟩
  · cases h

theorem assembled_transportForm (hsql : Assembled Given sql)
    (h : transportForm col sql = some out) : Assembled Given out := by
  simp only [transportForm] at h
  split at h
  · cases h
    exact assembled_cast hsql (word rfl)
  split at h
  · cases h
    exact of_pieces [.part sql, .fixed ".STAsText()"] rfl rfl (by simpa [Piece.contents] using hsql)
  split at h
  · cases h
    exact assembled_cast hsql (word rfl)
  split at h
  · cases h
    exact assembled_cast hsql (word rfl)
  · cases h

theorem templated : target.Templated where
  transportForm := assembled_transportForm
  scalarForm := delimited_scalarForm
  aggregateForm := delimited_aggregateForm
  scalarAliases := rfl
  aggregateAliases := rfl
  boolLiteral := delimited_numericBool
  dateLiteral d := delimited_cast (.quoted d.verbatim_text) (word rfl)
  timestampLiteral t := delimited_cast (.quoted t.verbatim_text) (word rfl)
  intervalLiteral := delimited_standardInterval
  selectedNumber h := h
  doubleType := rfl

end SqlServer

/-! ## Sybase -/

namespace Sybase

theorem verbatim_marker : ∀ name ∈ ["image", "binary", "varbinary", "timestamp"],
    Text.Verbatim (marker name) := by
  decide +kernel

theorem delimited_concatAsText (hargs : ∀ a ∈ args, Assembled Given a) :
    Delimited Given (concatAsText args) := by
  have htype : Assembled Given maxText := word rfl
  refine delimited_operatorChain rfl (assembled_textArguments (fun a ha => ?_) hargs)
  exact assembled_call rfl (by simp [htype, ha])

theorem delimited_scalarForm (hargs : ∀ a ∈ args, Assembled Given a)
    (h : scalarForm f args = some out) : Delimited Given out := by
  have hnull : Assembled Given "NULL" := word rfl
  have hpart : ∀ {field value : String}, Assembled Given field → Assembled Given value →
      Delimited Given (call "DATEPART" [field, value]) := fun hfield hvalue =>
    delimited_call rfl (by simp [hfield, hvalue])
  unfold scalarForm at h
  split at h
  · cases h
    exact delimited_call rfl (by simpa [hnull] using hargs)
  · cases h
    exact delimited_call rfl hargs
  · cases h
    exact delimited_concatAsText hargs
  · cases h
    exact hpart (word rfl) (by simpa using hargs)
  · cases h
    exact hpart (word rfl) (by simpa using hargs)
  · cases h
    exact hpart (word rfl) (by simpa using hargs)
  · cases h
    exact .word rfl
  · cases h
    exact .word rfl
  · exact SqlServer.delimited_familyForm hargs h

theorem assembled_transportForm (_ : Assembled Given sql) (h : transportForm col sql = some out) :
    Assembled Given out := by
  obtain ⟨name, hname, rfl⟩ := Option.map_eq_some_iff.1 h
  have hmarker := verbatim_marker name (List.mem_of_find?_eq_some hname)
  rw [Text.stringLiteral_of_verbatim hmarker]
  exact .quoted hmarker

theorem templated : target.Templated where
  transportForm := assembled_transportForm
  scalarForm := delimited_scalarForm
  aggregateForm _ h := nomatch h
  scalarAliases := rfl
  aggregateAliases := rfl
  boolLiteral := delimited_numericBool
  dateLiteral d := delimited_cast (.quoted d.verbatim_text) (word rfl)
  timestampLiteral t := delimited_cast (.quoted t.verbatim_text) (word rfl)
  intervalLiteral := delimited_standardInterval
  selectedNumber h := h
  doubleType := rfl

end Sybase

/-! ## Teradata -/

namespace Teradata

theorem delimited_dateAdd {a : DateAdd} (hvalue : Assembled Given a.value)
    (hamount : Assembled Given a.amount) : Delimited Given (dateAdd a) := by
  unfold dateAdd
  split
  · exact delimited_call rfl (by simp [hvalue, hamount])
  · exact delimited_call rfl (by simp [hvalue, assembled_multiplied 12 hamount])
  · exact DateAdd.delimited_intervalLiteral (fun _ _ => rfl) hvalue hamount

theorem delimited_scalarForm (hargs : ∀ a ∈ args, Assembled Given a)
    (h : scalarForm f args = some out) : Delimited Given out := by
  unfold scalarForm at h
  split at h
  · cases h
    exact delimited_trimBoth hargs
  · cases h
    exact delimited_trimOneSide rfl (word rfl) hargs
  · cases h
    exact delimited_trimOneSide rfl (word rfl) hargs
  · cases h
    exact delimited_defaultedCall rfl (word rfl) hargs
  next string search =>
    cases h
    exact .of_pieces [.fixed "POSITION(", .part search, .fixed " IN ", .part string, .fixed ")"]
      rfl rfl (by simpa [Piece.contents, and_comm] using hargs)
  · cases h
    exact delimited_operatorChain rfl hargs
  · cases h
    exact delimited_operatorChain rfl hargs
  · cases h
    exact delimited_operatorChain rfl hargs
  · cases h
    exact delimited_extractField (word rfl) hargs
  · cases h
    exact delimited_extractField (word rfl) hargs
  · cases h
    exact delimited_extractField (word rfl) hargs
  · exact Calls.delimited_dateAdd hargs (fun _ => delimited_dateAdd) h

theorem assembled_transportForm (hsql : Assembled Given sql)
    (h : transportForm col sql = some out) : Assembled Given out := by
  unfold transportForm at h
  split at h
  · cases h
    exact of_pieces [.part sql, .fixed ".ST_AsText()"] rfl rfl
      (by simpa [Piece.contents] using hsql)
  · obtain ⟨size, -, rfl⟩ := Option.map_eq_some_iff.1 h
    refine assembled_cast hsql (of_pieces [.fixed "VARCHAR(", .part (toString size), .fixed ")"]
      rfl rfl ?_)
    simp only [Piece.contents, List.forall_mem_singleton]
    exact assembled_nat size

theorem templated : target.Templated where
  transportForm := assembled_transportForm
  scalarForm := delimited_scalarForm
  aggregateForm _ h := nomatch h
  scalarAliases := rfl
  aggregateAliases := rfl
  boolLiteral := delimited_numericBool
  dateLiteral := delimited_dateWord
  timestampLiteral := delimited_timestampWord
  intervalLiteral := delimited_standardInterval
  selectedNumber h := h
  doubleType := rfl

end Teradata

/-! ## built targets -/

/-- The rules of every built target are templates. -/
theorem templated {d : Dialect} {p : Properties} {t : Target} (h : d.target p = .ok t) :
    t.Templated := by
  cases d with
  | athena => cases h; exact Athena.templated
  | db2 => cases h; exact Db2.templated
  | generic =>
    obtain ⟨_, _, _, _, _, _, rfl⟩ := Generic.exists_of_target h
    exact templated_plain rfl rfl closed_doublePrecision
  | hive => cases h; exact Hive.templated
  | impala => cases h; exact Impala.templated
  | mySql => cases h; exact MySql.templated
  | native => cases h; exact templated_plain rfl rfl closed_doublePrecision
  | oracle =>
    obtain ⟨override, rfl⟩ := Oracle.exists_of_target h
    exact Oracle.templated
  | postgreSql => cases h; exact PostgreSql.templated
  | redshift => cases h; exact Redshift.templated
  | sqlServer => cases h; exact SqlServer.templated
  | sybase => cases h; exact Sybase.templated
  | teradata => cases h; exact Teradata.templated

end RemoteQuery.Dialect
