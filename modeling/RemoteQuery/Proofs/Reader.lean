import RemoteQuery.Text.Quoted
import Mathlib.Data.List.Forall2
import Mathlib.Data.List.TakeDrop

/-!
# RemoteQuery.Proofs.Reader

Readers that take a value off the front of a text and leave the rest: fixed
words, one of several words, quoted text, and lists with a separator.

`Reads` says that a text is read as a value whatever follows it, as long as what
follows is allowed to; each reader has one lemma that says which texts it reads.
-/

namespace RemoteQuery

/-- A value off the front of a text and the text after it. -/
abbrev Reader (α : Type) := List Char → Option (α × List Char)

namespace Reader

variable {α : Type}

/-- `text` is read as `a` in front of everything that may follow. -/
def Reads (r : Reader α) (follows : List Char → Bool) (text : List Char) (a : α) : Prop :=
  ∀ rest, follows rest = true → r (text ++ rest) = some (a, rest)

/-! ## fixed words -/

/-- The text after a fixed word. -/
def skip : List Char → List Char → Option (List Char)
  | [], cs => some cs
  | w :: ws, c :: cs => if c = w then skip ws cs else none
  | _ :: _, [] => none

@[simp] theorem skip_append (w cs : List Char) : skip w (w ++ cs) = some cs := by
  induction w with
  | nil => rfl
  | cons c w ih => rw [List.cons_append, skip, if_pos rfl, ih]

/-- The first of several choices whose word stands at the front. -/
def choose (word : α → String) (choices : List α) : Reader α := fun cs =>
  choices.findSome? fun a => (skip (word a).toList cs).map fun rest => (a, rest)

/-! ## runs of characters -/

/-- A run of characters up to one of another kind. -/
theorem span_append {p : Char → Bool} {xs rest : List Char} (hx : ∀ c ∈ xs, p c = true)
    (hrest : rest.head?.all (fun c => !p c) = true) : (xs ++ rest).span p = (xs, rest) := by
  rw [List.span_eq_takeWhile_dropWhile, List.takeWhile_append_of_pos hx,
    List.dropWhile_append_of_pos hx]
  cases rest with
  | nil => simp
  | cons c cs =>
    have hc : p c = false := by simpa using hrest
    simp [hc]

/-- The text up to the closing quote; a quote written twice stands for one. -/
def quoted (q : Char) : Reader (List Char)
  | [] => none
  | [c] => if c = q then some ([], []) else none
  | c :: d :: cs =>
    if c = q then
      if d = q then (quoted q cs).map fun (s, rest) => (q :: s, rest) else some ([], d :: cs)
    else (quoted q (d :: cs)).map fun (s, rest) => (c :: s, rest)

/-- What was doubled is read back, unless one more quote follows the closing one. -/
theorem quoted_append {q : Char} (s : List Char) {rest : List Char}
    (hrest : rest.head? ≠ some q) :
    quoted q (Text.double q s ++ q :: rest) = some (s, rest) := by
  induction s with
  | nil =>
    cases rest with
    | nil => simp [Text.double, quoted]
    | cons d cs =>
      have hd : d ≠ q := by simpa using hrest
      simp [Text.double, quoted, hd]
  | cons c s ih =>
    rw [Text.double]
    split
    next h =>
      rw [List.cons_append, List.cons_append, quoted, if_pos rfl, if_pos rfl, ih, h]
      rfl
    next h =>
      obtain ⟨d, cs, hcs⟩ : ∃ d cs, Text.double q s ++ q :: rest = d :: cs :=
        List.exists_cons_of_ne_nil (by simp)
      rw [List.cons_append, hcs, quoted, if_neg h, ← hcs, ih]
      rfl

/-! ## lists -/

/-- At most `n` items with a separator between them. -/
def upTo (item : Reader α) (separator : List Char) : Nat → Reader (List α)
  | 0, _ => none
  | n + 1, cs => do
    let (a, cs) ← item cs
    match skip separator cs with
    | none => some ([a], cs)
    | some cs => do
      let (as, cs) ← upTo item separator n cs
      some (a :: as, cs)

/-- One or more items with a separator between them. -/
def separated (item : Reader α) (separator : String) : Reader (List α) := fun cs =>
  upTo item separator.toList (cs.length + 1) cs

variable {item : Reader α} {follows : List Char → Bool} {texts : List (List Char)} {as : List α}
  {rest : List Char}

theorem upTo_append {separator : List Char} {n : Nat}
    (h : List.Forall₂ (item.Reads follows) texts as) (hne : texts ≠ []) (hn : texts.length ≤ n)
    (hsep : ∀ cs, follows (separator ++ cs) = true) (hrest : follows rest = true)
    (hend : skip separator rest = none) :
    upTo item separator n (separator.intercalate texts ++ rest) = some (as, rest) := by
  induction h generalizing n with
  | nil => exact absurd rfl hne
  | @cons text a texts as ha htl ih =>
    obtain ⟨n, rfl⟩ : ∃ m, n = m + 1 := ⟨n - 1, by rw [List.length_cons] at hn; omega⟩
    rw [List.length_cons, Nat.add_le_add_iff_right] at hn
    cases htl with
    | nil => simp [upTo, ha rest hrest, hend]
    | @cons text' a' texts as ha' htl =>
      have htail := ih (by simp) hn
      rw [List.intercalate_cons_cons, List.append_assoc, List.append_assoc, upTo,
        ha _ (hsep _), Option.bind_eq_bind, Option.bind_some]
      simp only [skip_append, htail, Option.bind_eq_bind, Option.bind_some]

/-- A list has at most as many items as its text has characters, and one. -/
theorem length_le_intercalate {separator : List Char} (hs : separator ≠ []) :
    texts.length ≤ (separator.intercalate texts).length + 1 := by
  have hpos := List.length_pos_iff.2 hs
  induction texts with
  | nil => simp
  | cons text texts ih =>
    cases texts with
    | nil => simp
    | cons text' texts =>
      rw [List.intercalate_cons_cons]
      simp only [List.length_append, List.length_cons] at ih ⊢
      omega

/-- No item is longer than the list. -/
theorem length_le_of_mem {separator text : List Char} (h : text ∈ texts) :
    text.length ≤ (separator.intercalate texts).length := by
  induction texts with
  | nil => exact absurd h List.not_mem_nil
  | cons text' texts ih =>
    cases texts with
    | nil =>
      have heq : text = text' := List.mem_singleton.1 h
      simp [heq]
    | cons text'' texts =>
      rw [List.intercalate_cons_cons]
      simp only [List.length_append]
      obtain rfl | h := List.mem_cons.1 h
      · omega
      · have := ih h
        omega

theorem separated_append {separator : String} (h : List.Forall₂ (item.Reads follows) texts as)
    (hne : texts ≠ []) (hs : separator.toList ≠ [])
    (hsep : ∀ cs, follows (separator.toList ++ cs) = true) (hrest : follows rest = true)
    (hend : skip separator.toList rest = none) :
    separated item separator (separator.toList.intercalate texts ++ rest) = some (as, rest) := by
  refine upTo_append h hne ?_ hsep hrest hend
  have hlen : texts.length ≤ (separator.toList.intercalate texts).length + 1 :=
    length_le_intercalate hs
  rw [List.length_append]
  omega

end Reader

end RemoteQuery
