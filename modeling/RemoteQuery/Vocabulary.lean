/-!
# RemoteQuery.Vocabulary

Closed vocabularies: finite types whose members are listed once, in a fixed
order, and written with a fixed word each.  Function names, comparison operators
and capability tokens are all of this kind, so looking a word up and listing the
members in order is written once, here.

* `Vocabulary.ofWord?_word` — the word of a member is read back as that member;
* `Vocabulary.word_of_ofWord?` — only the word of a member is read as it.
-/

namespace RemoteQuery

/-- A finite type with its members in declaration order and a word for each. -/
class Vocabulary (α : Type) where
  /-- Every member, in declaration order. -/
  members : List α
  /-- The word a member is written with. -/
  word : α → String
  /-- No member is left out. -/
  mem_members : ∀ a : α, a ∈ members
  /-- No word is used twice. -/
  nodup_words : (members.map word).Nodup

namespace Vocabulary

variable {α : Type} [Vocabulary α]

/-- The member written as `w`; words are compared letter for letter. -/
def ofWord? (w : String) : Option α :=
  (members : List α).find? fun a => word a == w

/-- No member is listed twice. -/
theorem nodup_members : (members : List α).Nodup :=
  (List.pairwise_map.1 nodup_words).imp fun h e => h (congrArg word e)

/-- A word read as a member is the word of that member. -/
theorem word_of_ofWord? {w : String} {a : α} (h : ofWord? w = some a) : word a = w := by
  have hp := List.find?_some h
  exact beq_iff_eq.1 hp

/-- Members with the same word are the same. -/
theorem word_injective {a b : α} (h : word a = word b) : a = b := by
  have hinj : ∀ l : List α, (l.map word).Nodup → a ∈ l → b ∈ l → a = b := by
    intro l hl ha hb
    induction l with
    | nil => cases ha
    | cons c l ih =>
      rw [List.map_cons, List.nodup_cons] at hl
      rcases List.mem_cons.1 ha with rfl | ha'
      · rcases List.mem_cons.1 hb with rfl | hb'
        · rfl
        · exact absurd (h ▸ List.mem_map_of_mem hb') hl.1
      · rcases List.mem_cons.1 hb with rfl | hb'
        · exact absurd (h ▸ List.mem_map_of_mem ha') hl.1
        · exact ih hl.2 ha' hb'
  exact hinj members nodup_words (mem_members a) (mem_members b)

/-- The word of a member is read back as that member. -/
@[simp] theorem ofWord?_word (a : α) : ofWord? (word a) = some a := by
  cases h : (ofWord? (word a) : Option α) with
  | none =>
    have := List.find?_eq_none.1 h a (mem_members a)
    simp at this
  | some b => rw [word_injective (word_of_ofWord? h)]

end Vocabulary

end RemoteQuery
