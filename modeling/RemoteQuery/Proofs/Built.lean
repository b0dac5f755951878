import RemoteQuery.Dialect.Registry
import RemoteQuery.Proofs.Rendering

/-!
# RemoteQuery.Proofs.Built

The targets of the two dialects that read their configuration.  A target from
schema notes differs from the plain one in its profile only, and there only in
names, in case and in the place of absent values; the Oracle target depends on
the configured decimal only.  The text of a query in a built dialect is the one
its target gives.
-/

namespace RemoteQuery.Dialect

variable {p : Properties} {t : Target}

theorem Generic.exists_of_target (h : Generic.target p = .ok t) :
    ∃ style unquoted quoted catalogs schemas sorting, t = { profile := {
      name := "GENERIC"
      quoteStyle := style
      unquotedCase := unquoted
      quotedCase := quoted
      qualifiesCatalog := catalogs
      qualifiesSchema := schemas
      nullSorting := sorting
      nullOrderingClause := false } } := by
  unfold Generic.target at h
  split at h
  · contradiction
  next n _ =>
    split at h
    · contradiction
    next d hd =>
      cases h
      simp only [Generic.profileOf, bind_eq_ok, pure_eq_ok] at hd
      obtain ⟨style, _, unquoted, _, quoted, _, sorting, _, rfl⟩ := hd
      exact ⟨style, unquoted, quoted, _, _, sorting, rfl⟩

theorem Oracle.exists_of_target (h : Oracle.target p = .ok t) :
    ∃ override, t = Oracle.targetOf override := by
  obtain ⟨override, _, rfl⟩ := map_eq_ok.1 h
  exact ⟨override, rfl⟩

/-- A built dialect has the text of its target. -/
theorem generate_eq_ok_iff {d : Dialect} (h : d.target p = .ok t)
    {s : Select} {sql : String} : d.generate p s = .ok sql ↔ t.generate s = .ok sql := by
  rw [generate, h]
  exact mapError_eq_ok

end RemoteQuery.Dialect
