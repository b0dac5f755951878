import RemoteQuery.Proofs.Built
import RemoteQuery.Proofs.Faults
import RemoteQuery.Proofs.Needs

/-!
# RemoteQuery.Proofs.Promise

Declared capabilities are a promise: a query whose needs a dialect declares, and
which has a text at all, has one in that dialect.  Three tables have to agree for
this: the declared tokens, the narrowed numbers of arguments and the ways of
limiting rows.

* `Dialect.limitStrategy_of_declared` — where skipping rows is declared, it can
  be written;
* `Dialect.scalarArity_of_declared` — a declared function takes every number of
  arguments of its generic form;
* `Dialect.declared_iff_generates` — the promise, and its converse for the native
  dialect, which writes whatever any dialect writes.
-/

namespace RemoteQuery

/-! ## the tables of a built dialect -/

namespace Dialect

/-- A target built from notes limits at the end and narrows no function. -/
theorem Generic.profile_of_target {p : Properties} {t : Target} (h : Generic.target p = .ok t) :
    t.profile.limitStrategy = .trailing ∧ t.profile.scalarMaxArgs = [] := by
  obtain ⟨_, _, _, _, _, _, rfl⟩ := Generic.exists_of_target h
  exact ⟨rfl, rfl⟩

/-- The profile of the Oracle target does not depend on the configuration. -/
theorem Oracle.profile_of_target {p : Properties} {t : Target} (h : Oracle.target p = .ok t) :
    t.profile = Oracle.profile := by
  obtain ⟨override, rfl⟩ := Oracle.exists_of_target h
  rfl

/-- Where skipping rows is declared the limit is written at the end, or by row numbers. -/
theorem limitStrategy_of_declared {d : Dialect} {p : Properties} {t : Target}
    (h : d.target p = .ok t) (hc : d.capabilities.main.contains .limitWithOffset = true) :
    ¬(t.profile.limitStrategy = .fetchFirst ∨ t.profile.limitStrategy = .top) := by
  cases d with
  | generic => simp [(Generic.profile_of_target h).1]
  | oracle => simp [Oracle.profile_of_target h, Oracle.profile]
  | _ =>
    cases h
    revert hc
    decide

/-- Rows are limited by their number in one dialect only. -/
theorem rowNum_iff_oracle {d : Dialect} {p : Properties} {t : Target} (h : d.target p = .ok t) :
    t.profile.limitStrategy = .rowNum ↔ d = .oracle := by
  cases d with
  | generic => simp [(Generic.profile_of_target h).1]
  | oracle => simp [Oracle.profile_of_target h, Oracle.profile]
  | _ =>
    cases h
    decide

/-- A declared function takes the numbers of arguments of its generic form. -/
theorem scalarArity_of_declared {d : Dialect} {p : Properties} {t : Target}
    (h : d.target p = .ok t) {f : ScalarFunction} (hc : d.capabilities.scalars.contains f = true) :
    t.profile.scalarArity f = f.arity := by
  cases d with
  | generic => simp [Profile.scalarArity, (Generic.profile_of_target h).2]
  | oracle => simp [Profile.scalarArity, Oracle.profile_of_target h, Oracle.profile]
  | hive | sqlServer | sybase =>
    cases h
    revert hc
    cases f <;> decide
  | _ =>
    cases h
    rfl

end Dialect

/-! ## faults under two profiles -/

/-- A profile accepts no number of arguments that the generic form refuses. -/
theorem Profile.admits_arity_of_scalarArity {d : Profile} {f : ScalarFunction} {n : Nat}
    (h : (d.scalarArity f).admits n = true) : f.arity.admits n = true := by
  unfold Profile.scalarArity at h
  split at h
  · exact h
  next bound _ =>
    cases hmost : f.arity.most with
    | none => simp_all [Arity.admits]
    | some most =>
      simp only [Arity.admits, hmost, Option.all_some, Option.elim_some, Bool.and_eq_true,
        decide_eq_true_eq] at h ⊢
      omega

/-- A fault under the native profile is a fault under every profile. -/
theorem Expr.hasFault_of_native {d : Profile} {x : Expr}
    (h : x.HasFault Dialect.Native.target.profile) : x.HasFault d := by
  cases x with
  | scalar f args =>
    by_contra hn
    have hd : (d.scalarArity f).admits args.length = true := by simpa [HasFault] using hn
    have hg := Profile.admits_arity_of_scalarArity hd
    have hrefused : f.arity.admits args.length = false := h
    rw [hrefused] at hg
    contradiction
  | literal l => cases l <;> exact h
  | _ => exact h

/-- A fault under a profile that does not narrow the function is a fault under the native one. -/
theorem Expr.hasFault_native {d : Profile} {x : Expr} (h : x.HasFault d)
    (hd : ∀ f args, x = .scalar f args → d.scalarArity f = f.arity) :
    x.HasFault Dialect.Native.target.profile := by
  cases x with
  | scalar f args =>
    have hf : (d.scalarArity f).admits args.length = false := h
    rw [hd f args rfl] at hf
    exact hf
  | literal l => cases l <;> exact h
  | _ => exact h

/-! ## the promise -/

/-- What a query with a window of rows needs besides its tokens where rows are numbered: the last
row number fits 64 bits, and a star has columns to name. -/
def Select.WindowNumberable (s : Select) : Prop :=
  ∀ count offset, s.limit = some ⟨some count, some offset⟩ →
    count.toNat + offset.toNat < UInt64.size ∧ (s.selectList = .star → s.source.columns ≠ [])

namespace Dialect

/-- The native dialect writes whatever some target writes. -/
theorem native_of_generates {t : Target} {s : Select} (h : ∃ sql, t.generate s = .ok sql) :
    ∃ sql, Native.target.generate s = .ok sql := by
  rw [Target.exists_generate_iff, Select.not_violation_iff] at h ⊢
  obtain ⟨hlist, hfree, hlimit⟩ := h
  refine ⟨hlist, fun e he x hx hf => hfree e he x hx (Expr.hasFault_of_native hf), fun l hl => ?_⟩
  obtain ⟨count, hcount, _⟩ := hlimit l hl
  exact ⟨count, hcount, fun m _ => by simp [Native.target]⟩

/-- No fault that the native profile lacks occurs in a query whose needs are declared. -/
theorem faultFree_of_declared {d : Dialect} {p : Properties} {t : Target} {s : Select}
    (h : d.target p = .ok t) (hc : d.capabilities.containsAll s.needs = true)
    (hfree : ∀ e ∈ s.expressions, e.FaultFree Native.target.profile) :
    ∀ e ∈ s.expressions, e.FaultFree t.profile := by
  intro e he x hx hfault
  refine hfree e he x hx (Expr.hasFault_native hfault ?_)
  rintro f args rfl
  have hneeds : s.needs.scalars.contains f = true :=
    (Select.has_needs_iff (CapabilitySet.asksForToken_scalar f) fun _ => Bool.false_ne_true).2
      ⟨_, ⟨e, he, hx⟩, by simp [Expr.rootNeeds, CapabilitySet.ofScalars]⟩
  have hdeclared := (CapabilitySet.containsAll_iff.1 hc).2.2.2.1 f hneeds
  exact scalarArity_of_declared h hdeclared

/-- **Declared capabilities promise a text.**  If a built dialect declares what a query needs and
the native dialect writes the query, the dialect writes it too; only where rows are numbered does
the window matter as well.  Whatever a built dialect writes, declared or not, the native dialect
writes. -/
theorem declared_iff_generates {d : Dialect} {p : Properties} {t : Target}
    (h : d.target p = .ok t) (q : Properties) (s : Select) :
    (d.capabilities.containsAll s.needs = true → (∃ sql, native.generate q s = .ok sql) →
      ((∃ sql, d.generate p s = .ok sql) ↔ (d = .oracle → s.WindowNumberable))) ∧
    ((∃ sql, d.generate p s = .ok sql) → ∃ sql, native.generate q s = .ok sql) := by
  have hnative : native.target q = .ok Native.target := rfl
  simp only [generate_eq_ok_iff h, generate_eq_ok_iff hnative]
  refine ⟨fun hc hn => ?_, native_of_generates⟩
  rw [Target.exists_generate_iff, Select.not_violation_iff] at hn ⊢
  obtain ⟨hlist, hfree, hlimit⟩ := hn
  constructor
  · rintro ⟨_, _, hwindow⟩ hd count offset hl
    obtain ⟨count', hcount, hm⟩ := hwindow _ hl
    cases hcount
    obtain ⟨_, hsum, hstar⟩ := hm offset rfl
    have hrow := (rowNum_iff_oracle h).2 hd
    exact ⟨by simpa [hrow] using hsum, fun hl hcols => hstar ⟨hrow, hl, hcols⟩⟩
  · intro hwindow
    refine ⟨hlist, faultFree_of_declared h hc hfree, fun l hl => ?_⟩
    obtain ⟨count, hcount, _⟩ := hlimit l hl
    refine ⟨count, hcount, fun m hm => ?_⟩
    have hdeclared := (CapabilitySet.containsAll_iff.1 hc).1 _ (Select.needs_limitWithOffset hl hm)
    have hl' : s.limit = some ⟨some count, some m⟩ := by rw [hl, ← hcount, ← hm]
    refine ⟨limitStrategy_of_declared h hdeclared, ?_, ?_⟩
    · rintro ⟨hrow, hsum⟩
      have := (hwindow ((rowNum_iff_oracle h).1 hrow) count m hl').1
      omega
    · rintro ⟨hrow, hstar, hcols⟩
      exact (hwindow ((rowNum_iff_oracle h).1 hrow) count m hl').2 hstar hcols

/-- A window of rows where rows are numbered, over a call that some dialects narrow. -/
theorem declared_generates_oracle_window :
    oracle.capabilities.containsAll ((((Select.ofTable { name := "ORDERS" }).withColumns
      [.scalar .ltrim [.literal (.string "0012"), .literal (.string "0")]]).withLimit 10).withOffset
        5).needs = true ∧
    ∃ sql, oracle.generate {} ((((Select.ofTable { name := "ORDERS" }).withColumns
      [.scalar .ltrim [.literal (.string "0012"), .literal (.string "0")]]).withLimit 10).withOffset
        5) = .ok sql := by
  have hbuilt : oracle.target {} = .ok (Oracle.targetOf none) := rfl
  refine ⟨by decide +kernel, ?_⟩
  refine ((declared_iff_generates hbuilt {} _).1 (by decide +kernel) ⟨_, rfl⟩).2 fun _ => ?_
  intro count offset hl
  cases hl
  exact ⟨by decide, fun hstar => nomatch hstar⟩

end Dialect

end RemoteQuery
