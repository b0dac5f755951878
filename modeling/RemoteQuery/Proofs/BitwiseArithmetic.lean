import RemoteQuery.Proofs.Atomic
import RemoteQuery.Proofs.Reader
import Mathlib.Data.Int.Bitwise
import Mathlib.Tactic.Ring

/-!
# RemoteQuery.Proofs.BitwiseArithmetic

Oracle has one bitwise function, the conjunction; the disjunction and the
exclusive one are written as sums and differences of it.  To see that they come
to the right numbers, the text is read back as arithmetic on integers.

A text is split at the blanks and commas that stand in no quotes and in no
parentheses.  The last sum or difference of the parts is done last, then the last
product; a text that is neither is a numeral, an operand, a text in parentheses
or a call.

* `lor_eq_sub_land`, `xor_eq_sub_land` — the two identities, by induction over bits;
* `parts_append`, `splitOn_uncovered` — the parts of a text;
* `Arithmetic.read?` — a text as arithmetic;
* `Dialect.Oracle.value_bitwise` — the texts of both operators and their values.
-/

namespace RemoteQuery

open Lexing Calls

/-! ## bits -/

/-- Induction over the bits of an integer, of which all but finitely many are those of zero or of
minus one. -/
theorem bitInduction {motive : Int → Prop} (zero : motive 0) (minusOne : motive (-1))
    (bit : ∀ b n, motive n → motive (Int.bit b n)) (n : Int) : motive n := by
  by_cases hzero : n = 0
  · rwa [hzero]
  by_cases hminus : n = -1
  · rwa [hminus]
  · rw [← Int.bit_decomp n]
    exact bit _ _ (bitInduction zero minusOne bit n.div2)
termination_by n.natAbs
decreasing_by
  rw [Int.div2_val]
  omega

/-- The disjunction counts the bits that both numbers have once. -/
theorem lor_eq_sub_land (x y : Int) : Int.lor x y = x + y - Int.land x y := by
  induction x using bitInduction generalizing y with
  | zero => cases y <;> simp [Int.lor, Int.land, Nat.ldiff]
  | minusOne =>
    change Int.lor (Int.negSucc 0) y = Int.negSucc 0 + y - Int.land (Int.negSucc 0) y
    cases y <;> simp [Int.lor, Int.land, Nat.ldiff]
  | bit a m ih =>
    rw [← Int.bit_decomp y, Int.lor_bit, Int.land_bit, ih]
    simp only [Int.bit_val]
    cases a <;> cases y.bodd <;> simp <;> ring

/-- The exclusive disjunction does not count the bits that both numbers have. -/
theorem xor_eq_sub_land (x y : Int) : Int.xor x y = x + y - 2 * Int.land x y := by
  induction x using bitInduction generalizing y with
  | zero => cases y <;> simp [Int.xor, Int.land, Nat.ldiff]
  | minusOne =>
    change Int.xor (Int.negSucc 0) y = Int.negSucc 0 + y - 2 * Int.land (Int.negSucc 0) y
    cases y <;> simp [Int.xor, Int.land, Nat.ldiff] <;> omega
  | bit a m ih =>
    rw [← Int.bit_decomp y, Int.lxor_bit, Int.land_bit, ih]
    simp only [Int.bit_val]
    cases a <;> cases y.bodd <;> simp <;> ring

/-! ## the parts of a text -/

namespace Lexing

variable {style : QuoteStyle} {separator : Char}

/-- The parts of a text between the separators that stand in no quotes and in no parentheses. -/
def partsFrom (style : QuoteStyle) (separator : Char) :
    Option Quoting → Nat → List Char → List (List Char)
  | _, _, [] => [[]]
  | some q, depth, c :: cs =>
    (partsFrom style separator (if c = q.closing then none else some q) depth cs).modifyHead
      (c :: ·)
  | none, depth, c :: cs =>
    if depth = 0 ∧ c = separator then [] :: partsFrom style separator none 0 cs
    else
      (partsFrom style separator (opened? style c) (depthAfter depth c) cs).modifyHead (c :: ·)

/-- The parts of a whole text. -/
def parts (style : QuoteStyle) (separator : Char) (text : List Char) : List (List Char) :=
  partsFrom style separator none 0 text

theorem opened?_of_isBare {c : Char} (h : isBare c = true) : opened? style c = none := by
  have hquote : c ≠ '\'' := by
    rintro rfl
    contradiction
  rw [opened_neutral (isNeutral_of_isBare h), if_neg hquote]

theorem depthAfter_of_isBare {c : Char} (h : isBare c = true) (depth : Nat) :
    depthAfter depth c = depth := by
  have hparens : c ≠ '(' ∧ c ≠ ')' := by
    constructor <;> rintro rfl <;> contradiction
  rw [depthAfter, if_neg hparens.1, if_neg hparens.2]

theorem depthAfter_of_opened? {c : Char} {q : Quoting} (h : opened? style c = some q)
    (depth : Nat) : depthAfter depth c = depth := by
  have hparens : c ≠ '(' ∧ c ≠ ')' := by
    constructor <;> rintro rfl <;> cases style <;> cases h
  rw [depthAfter, if_neg hparens.1, if_neg hparens.2]

theorem partsFrom_ne_nil (style : QuoteStyle) (separator : Char) (quote : Option Quoting)
    (depth : Nat) (cs : List Char) :
    partsFrom style separator quote depth cs ≠ [] := by
  fun_induction partsFrom style separator quote depth cs <;> simp_all

theorem intercalate_modifyHead {c : Char} {ps : List (List Char)} (h : ps ≠ []) :
    [separator].intercalate (ps.modifyHead (c :: ·)) = c :: [separator].intercalate ps := by
  obtain ⟨p, ps, rfl⟩ := List.exists_cons_of_ne_nil h
  cases ps with
  | nil => simp
  | cons q qs => simp

/-- The parts with the separators between them are the text. -/
theorem intercalate_partsFrom (quote : Option Quoting) (depth : Nat) (cs : List Char) :
    [separator].intercalate (partsFrom style separator quote depth cs) = cs := by
  fun_induction partsFrom style separator quote depth cs with
  | case1 => simp
  | case2 q depth c cs ih => rw [intercalate_modifyHead (partsFrom_ne_nil _ _ _ _ _), ih]
  | case3 depth c cs h ih =>
    rw [List.intercalate_cons_of_ne_nil (partsFrom_ne_nil _ _ _ _ _), ih, h.2]
    rfl
  | case4 depth c cs h ih => rw [intercalate_modifyHead (partsFrom_ne_nil _ _ _ _ _), ih]

theorem intercalate_parts (style : QuoteStyle) (separator : Char) (text : List Char) :
    [separator].intercalate (parts style separator text) = text :=
  intercalate_partsFrom none 0 text

/-- A character outside of quotes and parentheses that is the separator ends a part, and any other
character is the first of its part. -/
theorem partsFrom_step {s s' : State} {c : Char} (h : step style s c = some s') (cs : List Char) :
    partsFrom style separator s.quote s.marks.depth (c :: cs) =
      if s.quote = none ∧ s.marks.depth = 0 ∧ c = separator then
        [] :: partsFrom style separator none 0 cs
      else (partsFrom style separator s'.quote s'.marks.depth cs).modifyHead (c :: ·) := by
  obtain ⟨quote, m⟩ := s
  cases quote with
  | some q =>
    cases h
    simp [partsFrom]
  | none =>
    obtain ⟨m', hm', rfl⟩ := Option.map_eq_some_iff.1 h
    have hdepth := depthAfter_of_step hm' 0
    simp only [Nat.zero_add] at hdepth
    rw [partsFrom, hdepth]
    simp

/-- A text that closes what it opens, a separator and another text have the parts of both. -/
theorem partsFrom_append (hsep : isBare separator = true) {s s' : State} {xs : List Char}
    (h : run style s xs = some s') (hquote : s'.quote = none) (hdepth : s'.marks.depth = 0)
    (ys : List Char) :
    partsFrom style separator s.quote s.marks.depth (xs ++ separator :: ys) =
      partsFrom style separator s.quote s.marks.depth xs ++ parts style separator ys := by
  induction xs generalizing s with
  | nil =>
    cases h
    rw [hquote, hdepth, List.nil_append, partsFrom, partsFrom, if_pos ⟨rfl, rfl⟩]
    rfl
  | cons c xs ih =>
    obtain ⟨s₁, hs₁, hrun⟩ := Option.bind_eq_some_iff.1 h
    rw [List.cons_append, partsFrom_step hs₁, partsFrom_step hs₁]
    split
    next hend =>
      have hs₁ : s₁.quote = none ∧ s₁.marks.depth = 0 := by
        obtain ⟨quote, m⟩ := s
        obtain ⟨rfl, hm, rfl⟩ := hend
        obtain ⟨m', hm', rfl⟩ := Option.map_eq_some_iff.1 hs₁
        have hstep := depthAfter_of_step hm' 0
        rw [Nat.zero_add, Nat.zero_add, depthAfter_of_isBare hsep] at hstep
        exact ⟨opened?_of_isBare hsep, hstep.symm.trans hm⟩
      have hrest := ih hrun
      rw [hs₁.1, hs₁.2] at hrest
      rw [hrest, List.cons_append]
    next =>
      rw [ih hrun]
      obtain ⟨p, ps, hps⟩ :=
        List.exists_cons_of_ne_nil (partsFrom_ne_nil style separator s₁.quote s₁.marks.depth xs)
      rw [hps]
      rfl

/-- What is left of the parts of a text; the first one starts where the text does. -/
def shownParts (style : QuoteStyle) (quote : Option Quoting) (depth : Nat) :
    List (List Char) → List (List Char)
  | [] => []
  | p :: ps => uncovered style quote depth p :: ps.map (uncovered style none 0)

theorem shownParts_start (ps : List (List Char)) :
    shownParts style none 0 ps = ps.map (uncovered style none 0) := by
  cases ps <;> rfl

/-- Splitting a text and leaving out what is covered can be done in either order. -/
theorem splitOn_uncovered (style : QuoteStyle) (hsep : isBare separator = true)
    (quote : Option Quoting) (depth : Nat) (cs : List Char) :
    (uncovered style quote depth cs).splitOn separator =
      shownParts style quote depth (partsFrom style separator quote depth cs) := by
  induction cs generalizing quote depth with
  | nil => cases quote <;> simp [uncovered, partsFrom, shownParts, List.splitOn]
  | cons c cs ih =>
    cases quote with
    | some q =>
      rw [partsFrom, uncovered, ih]
      obtain ⟨p, ps, hps⟩ := List.exists_cons_of_ne_nil (partsFrom_ne_nil style separator
        (if c = q.closing then none else some q) depth cs)
      rw [hps, List.modifyHead_cons, shownParts, shownParts, uncovered]
    | none =>
      by_cases hend : depth = 0 ∧ c = separator
      · obtain ⟨rfl, rfl⟩ := hend
        have hopen : opened? style c = none := opened?_of_isBare hsep
        rw [partsFrom, if_pos ⟨rfl, rfl⟩, uncovered_plain hopen, depthAfter_of_isBare hsep,
          if_pos (.inl rfl)]
        rw [List.singleton_append, List.splitOn_cons_eq_if_modifyHead,
          if_pos (beq_self_eq_true c), ih, shownParts_start]
        simp [shownParts, uncovered]
      · rw [partsFrom, if_neg hend]
        obtain ⟨p, ps, hps⟩ := List.exists_cons_of_ne_nil (partsFrom_ne_nil style separator
          (opened? style c) (depthAfter depth c) cs)
        have hrest := ih (opened? style c) (depthAfter depth c)
        rw [hps, shownParts] at hrest
        rw [hps, List.modifyHead_cons, shownParts]
        cases hopen : opened? style c with
        | some q =>
          rw [hopen, depthAfter_of_opened? hopen] at hrest
          rw [uncovered_opening hopen, uncovered_opening hopen, hrest]
        | none =>
          rw [hopen] at hrest
          rw [uncovered_plain hopen, uncovered_plain hopen]
          split
          next hshown =>
            have hne : c ≠ separator := by
              rintro rfl
              obtain hzero | ⟨rfl, -⟩ := hshown
              · exact hend ⟨hzero, rfl⟩
              · contradiction
            rw [List.singleton_append, List.splitOn_cons_eq_if_modifyHead,
              if_neg (by simpa using hne), hrest]
            rfl
          next => exact hrest

theorem parts_append (hsep : isBare separator = true) {a : String} (ha : Closes style a)
    (text : List Char) :
    parts style separator (a.toList ++ separator :: text) =
      parts style separator a.toList ++ parts style separator text := by
  obtain ⟨last, hrun⟩ := ha
  exact partsFrom_append hsep hrun rfl rfl text

/-- A text in which the separator is covered everywhere has one part. -/
theorem parts_of_notMem_surface (hsep : isBare separator = true) {a : String}
    (h : separator ∉ surface style a) : parts style separator a.toList = [a.toList] := by
  have hsplit := splitOn_uncovered style hsep none 0 a.toList
  rw [← surface, List.splitOn_eq_singleton h, shownParts_start] at hsplit
  obtain ⟨part, hpart⟩ : ∃ part, parts style separator a.toList = [part] := by
    refine List.length_eq_one_iff.1 ?_
    simpa [parts] using (congrArg List.length hsplit).symm
  have hjoin := intercalate_parts style separator a.toList
  rw [hpart, List.intercalate_singleton] at hjoin
  rw [hpart, hjoin]

end Lexing

/-- No part of an atomic text is an operator. -/
theorem Atomic.notMem_parts {style : QuoteStyle} {a op : String} (h : Atomic style a)
    (hop : op ∈ operators) (hbare : ∀ c ∈ op.toList, isBare c = true) :
    op.toList ∉ parts style ' ' a.toList := by
  intro hmem
  refine h.noOperator op hop (mem_words.2 ?_)
  rw [surface, splitOn_uncovered style rfl, shownParts_start]
  exact List.mem_map.2 ⟨op.toList, hmem, uncovered_bare hbare⟩

/-! ## arithmetic -/

namespace Arithmetic

/-- The operations that texts are read as. -/
inductive Operation where
  | add
  | sub
  | mul
  | bitAnd
deriving DecidableEq

namespace Operation

/-- How the operation is written: three between their operands, and one as a call. -/
def symbol : Operation → String
  | add => "+"
  | sub => "-"
  | mul => "*"
  | bitAnd => "BITAND"

/-- The operations that are done last. -/
def sums : List Operation := [add, sub]

/-- The operations that are done before sums and differences. -/
def products : List Operation := [mul]

/-- What the operation comes to. -/
def apply : Operation → Int → Int → Int
  | add, x, y => x + y
  | sub, x, y => x - y
  | mul, x, y => x * y
  | bitAnd, x, y => Int.land x y

end Operation

end Arithmetic

open Arithmetic

/-- No part of a text stands for one of the operations. -/
def Lacks (style : QuoteStyle) (ops : List Operation) (text : String) : Prop :=
  ∀ op ∈ ops, op.symbol.toList ∉ parts style ' ' text.toList

theorem Atomic.lacks {style : QuoteStyle} {a : String} (h : Atomic style a)
    (ops : List Operation) (hops : .bitAnd ∉ ops) : Lacks style ops a := by
  intro op hop
  cases op with
  | bitAnd => exact absurd hop hops
  | add | sub | mul => exact h.notMem_parts (by decide) (List.all_eq_true.1 rfl)

/-- Arithmetic on integers over operands that are known by their texts. -/
inductive Arithmetic where
  | numeral (n : Int)
  | operand (text : String)
  | binary (op : Operation) (left right : Arithmetic)

namespace Arithmetic

/-- The value under an assignment of integers to the operands. -/
def eval (value : String → Int) : Arithmetic → Int
  | numeral n => n
  | operand text => value text
  | binary op left right => op.apply (left.eval value) (right.eval value)

/-! ### reading -/

/-- The last part that stands for one of the operations, with the parts before and after it. -/
def lastOperation? (ops : List Operation) :
    List (List Char) → Option (List (List Char) × Operation × List (List Char))
  | [] => none
  | p :: ps =>
    match lastOperation? ops ps with
    | some (front, op, back) => some (p :: front, op, back)
    | none => (ops.find? fun op => op.symbol.toList = p).map fun op => ([], op, ps)

/-- What a text is at its outermost: the texts in it are read on their own. -/
inductive Shape where
  | numeral (n : Int)
  | operand
  | binary (op : Operation) (left right : List Char)
  | group (inner : List Char)
  | unreadable

/-- The last of the given operations in a text, with the texts before and after it. -/
def infix? (style : QuoteStyle) (ops : List Operation) (text : List Char) : Option Shape :=
  (lastOperation? ops (parts style ' ' text)).map fun (front, op, back) =>
    .binary op ([' '].intercalate front) ([' '].intercalate back)

/-- What stands between `front` and the parenthesis at the end, if it closes what it opens. -/
def enclosed? (style : QuoteStyle) (front : String) (text : List Char) : Option (List Char) :=
  (Reader.skip front.toList text).bind fun rest =>
    if rest.getLast? = some ')' ∧ run style (.at 0) rest.dropLast = some (.at 0) then
      some rest.dropLast
    else none

/-- A call of the bitwise conjunction. -/
def bitAnd? (style : QuoteStyle) (text : List Char) : Option Shape :=
  (enclosed? style (Operation.bitAnd.symbol ++ "(") text).bind fun inner =>
    match parts style ',' inner with
    | [left, ' ' :: right] => some (.binary .bitAnd left right)
    | _ => none

/-- Numerals and operands are not taken apart.  Sums and differences are looked for before products,
and the last one first: it is done last. -/
def shape (style : QuoteStyle) (operands : List String) (text : List Char) : Shape :=
  match integerLiteral? (String.ofList text) with
  | some n => .numeral n
  | none =>
    if String.ofList text ∈ operands then .operand
    else
      (infix? style Operation.sums text <|> infix? style Operation.products text <|>
        (enclosed? style "(" text).map Shape.group <|> bitAnd? style text).getD .unreadable

/-- The texts that are left to read are shorter. -/
def Shape.Within (length : Nat) : Shape → Prop
  | numeral _ | operand | unreadable => True
  | binary _ left right => left.length < length ∧ right.length < length
  | group inner => inner.length < length

theorem lastOperation?_eq_some {ops : List Operation} {ps front back : List (List Char)}
    {op : Operation} (h : lastOperation? ops ps = some (front, op, back)) :
    ps = front ++ op.symbol.toList :: back := by
  induction ps generalizing front with
  | nil => cases h
  | cons p ps ih =>
    rw [lastOperation?] at h
    split at h
    next front' op' back' hlast =>
      cases h
      rw [ih hlast, List.cons_append]
    next =>
      obtain ⟨op', hfind, h⟩ := Option.map_eq_some_iff.1 h
      cases h
      have hsymbol : op.symbol.toList = p := by simpa using List.find?_some hfind
      rw [hsymbol, List.nil_append]

theorem intercalate_append_cons {front : List (List Char)} (h : front ≠ []) (p : List Char)
    (back : List (List Char)) :
    [' '].intercalate (front ++ p :: back) =
      [' '].intercalate front ++ ' ' :: [' '].intercalate (p :: back) := by
  induction front with
  | nil => contradiction
  | cons q qs ih =>
    rw [List.cons_append, List.intercalate_cons_of_ne_nil (by simp)]
    cases qs with
    | nil => simp
    | cons r rs => rw [ih (by simp), List.intercalate_cons_cons]; simp

theorem length_lt_of_lastOperation? {ops : List Operation} {ps front back : List (List Char)}
    {op : Operation} (h : lastOperation? ops ps = some (front, op, back)) :
    ([' '].intercalate front).length < ([' '].intercalate ps).length ∧
      ([' '].intercalate back).length < ([' '].intercalate ps).length := by
  have hsymbol : 0 < op.symbol.toList.length := by cases op <;> decide
  have hback : ([' '].intercalate back).length <
      ([' '].intercalate (op.symbol.toList :: back)).length := by
    cases back with
    | nil => simpa using hsymbol
    | cons p ps =>
      rw [List.intercalate_cons_cons]
      simp only [List.length_append]
      omega
  rw [lastOperation?_eq_some h]
  cases front with
  | nil => exact ⟨Nat.zero_lt_of_lt hback, hback⟩
  | cons p ps =>
    rw [intercalate_append_cons (by simp)]
    simp only [List.length_append, List.length_cons]
    omega

theorem within_infix? {style : QuoteStyle} {ops : List Operation} {text : List Char} {s : Shape}
    (h : infix? style ops text = some s) : s.Within text.length := by
  obtain ⟨⟨front, op, back⟩, hlast, rfl⟩ := Option.map_eq_some_iff.1 h
  have hlengths := length_lt_of_lastOperation? hlast
  rwa [intercalate_parts] at hlengths

theorem length_le_of_skip {word text rest : List Char} (h : Reader.skip word text = some rest) :
    rest.length ≤ text.length := by
  fun_induction Reader.skip word text with
  | case1 => cases h; exact Nat.le_refl _
  | case2 w ws cs ih => exact Nat.le_succ_of_le (ih h)
  | case3 => cases h
  | case4 => cases h

theorem length_enclosed? {style : QuoteStyle} {front : String} {text inner : List Char}
    (h : enclosed? style front text = some inner) : inner.length < text.length := by
  obtain ⟨rest, hskip, h⟩ := Option.bind_eq_some_iff.1 h
  obtain ⟨⟨hlast, -⟩, h⟩ := Option.ite_none_right_eq_some.1 h
  cases h
  have hrest := List.dropLast_append_getLast? ')' hlast
  have hlength := congrArg List.length hrest
  have hskipped := length_le_of_skip hskip
  simp only [List.length_append, List.length_singleton] at hlength
  omega

theorem within_bitAnd? {style : QuoteStyle} {text : List Char} {s : Shape}
    (h : bitAnd? style text = some s) : s.Within text.length := by
  obtain ⟨inner, hinner, h⟩ := Option.bind_eq_some_iff.1 h
  have hlength := length_enclosed? hinner
  split at h
  next left right hparts =>
    cases h
    have hjoin := intercalate_parts style ',' inner
    rw [hparts] at hjoin
    have hinner := congrArg List.length hjoin
    simp at hinner
    constructor <;> omega
  next => cases h

theorem within_shape (style : QuoteStyle) (operands : List String) (text : List Char) :
    (shape style operands text).Within text.length := by
  unfold shape
  split
  · trivial
  · split
    · trivial
    · cases hsum : infix? style Operation.sums text with
      | some s => exact within_infix? hsum
      | none =>
        cases hproduct : infix? style Operation.products text with
        | some s => exact within_infix? hproduct
        | none =>
          cases hgroup : enclosed? style "(" text with
          | some inner => exact length_enclosed? hgroup
          | none =>
            cases hcall : bitAnd? style text with
            | some s => exact within_bitAnd? hcall
            | none => trivial

/-- A text as arithmetic over the given operands, if it is nothing else. -/
def read? (style : QuoteStyle) (operands : List String) (text : List Char) : Option Arithmetic :=
  match _hshape : shape style operands text with
  | .numeral n => some (.numeral n)
  | .operand => some (.operand (String.ofList text))
  | .binary op left right => do
    let l ← read? style operands left
    let r ← read? style operands right
    return .binary op l r
  | .group inner => read? style operands inner
  | .unreadable => none
termination_by text.length
decreasing_by
  all_goals
    have hwithin := within_shape style operands text
    rw [_hshape] at hwithin
  · exact hwithin.1
  · exact hwithin.2
  · exact hwithin

/-- The value of a text as arithmetic, under an assignment of integers to its operands. -/
def value? (style : QuoteStyle) (operands : List String) (value : String → Int) (text : String) :
    Option Int :=
  (read? style operands text.toList).map (eval value)

section

variable {style : QuoteStyle} {operands : List String} {value : String → Int} {text : String}

theorem value?_numeral {n : Int} (h : shape style operands text.toList = .numeral n) :
    value? style operands value text = some n := by
  rw [value?, read?]
  split <;> simp_all [eval]

theorem value?_operand (h : shape style operands text.toList = .operand) :
    value? style operands value text = some (value text) := by
  rw [value?, read?]
  split <;> simp_all [eval]

theorem value?_group {inner : String} (h : shape style operands text.toList = .group inner.toList) :
    value? style operands value text = value? style operands value inner := by
  rw [value?, read?]
  split <;> simp_all [value?]

theorem value?_binary (op : Operation) {left right : String} {x y : Int}
    (h : shape style operands text.toList = .binary op left.toList right.toList)
    (hleft : value? style operands value left = some x)
    (hright : value? style operands value right = some y) :
    value? style operands value text = some (op.apply x y) := by
  obtain ⟨l, hl, rfl⟩ := Option.map_eq_some_iff.1 hleft
  obtain ⟨r, hr, rfl⟩ := Option.map_eq_some_iff.1 hright
  rw [value?, read?]
  split <;> simp_all [eval]

/-- The leaves of arithmetic: operands have the values assigned to them, and so have numerals, which
are assigned their own. -/
theorem value?_of_mem (h : text ∈ operands)
    (hnumeral : ∀ n, integerLiteral? text = some n → value text = n) :
    value? style operands value text = some (value text) := by
  cases hread : integerLiteral? text with
  | some n =>
    rw [hnumeral n hread]
    exact value?_numeral (by rw [shape, String.ofList_toList, hread])
  | none => exact value?_operand (by rw [shape, String.ofList_toList, hread]; exact if_pos h)

/-! ### the shape of a text -/

/-- A text that is neither a numeral nor an operand is taken apart. -/
theorem shape_eq (hnumeral : isIntegerLiteral text = false)
    (hlonger : ∀ o ∈ operands, o.toList.length < text.toList.length) :
    shape style operands text.toList =
      (infix? style Operation.sums text.toList <|> infix? style Operation.products text.toList <|>
        (enclosed? style "(" text.toList).map Shape.group <|> bitAnd? style text.toList).getD
        .unreadable := by
  have hread : integerLiteral? text = none := by simpa [isIntegerLiteral] using hnumeral
  have hoperand : text ∉ operands := fun hmem => Nat.lt_irrefl _ (hlonger text hmem)
  rw [shape, String.ofList_toList, hread]
  exact if_neg hoperand

theorem lastOperation?_eq_none {ops : List Operation} {ps : List (List Char)}
    (h : ∀ op ∈ ops, op.symbol.toList ∉ ps) : lastOperation? ops ps = none := by
  induction ps with
  | nil => rfl
  | cons p ps ih =>
    have hfind : ops.find? (fun op => op.symbol.toList = p) = none := by
      refine List.find?_eq_none.2 fun op hop => ?_
      have hne := h op hop
      rw [List.mem_cons, not_or] at hne
      simpa using hne.1
    rw [lastOperation?, ih fun op hop hmem => h op hop (List.mem_cons_of_mem _ hmem), hfind]
    rfl

theorem lastOperation?_append {ops : List Operation} {op : Operation}
    (hfind : ops.find? (fun o => o.symbol.toList = op.symbol.toList) = some op)
    {back : List (List Char)} (hback : lastOperation? ops back = none)
    (front : List (List Char)) :
    lastOperation? ops (front ++ op.symbol.toList :: back) = some (front, op, back) := by
  induction front with
  | nil =>
    rw [List.nil_append, lastOperation?, hback, hfind]
    rfl
  | cons p ps ih => rw [List.cons_append, lastOperation?, ih]

theorem infix?_eq_none {ops : List Operation} (h : Lacks style ops text) :
    infix? style ops text.toList = none := by
  rw [infix?, lastOperation?_eq_none h]
  rfl

/-- The parts of an operation are those of its two sides and its symbol. -/
theorem parts_operation {left right : String} (hleft : Closes style left) (op : Operation) :
    parts style ' ' (left ++ " " ++ op.symbol ++ " " ++ right).toList =
      parts style ' ' left.toList ++ op.symbol.toList :: parts style ' ' right.toList := by
  have hsymbol : Closes style op.symbol := by
    cases op <;> cases style <;> exact ⟨_, rfl⟩
  have hone : parts style ' ' op.symbol.toList = [op.symbol.toList] := by
    cases op <;> cases style <;> rfl
  have hlist : (left ++ " " ++ op.symbol ++ " " ++ right).toList =
      left.toList ++ ' ' :: (op.symbol.toList ++ ' ' :: right.toList) := by
    simp
  rw [hlist, parts_append rfl hleft, parts_append rfl hsymbol, hone, List.singleton_append]

theorem safe_operation {left right : String} (hleft : Safe style left) (op : Operation)
    (hright : Safe style right) : Safe style (left ++ " " ++ op.symbol ++ " " ++ right) := by
  have hsymbol : Safe style (" " ++ op.symbol ++ " ") := by cases op <;> exact safe_word rfl
  have hjoin : left ++ " " ++ op.symbol ++ " " ++ right =
      left ++ (" " ++ op.symbol ++ " ") ++ right := by
    simp [String.append_assoc]
  rw [hjoin]
  exact (hleft.append hsymbol).append hright

/-- A product lacks sums and differences where its sides do. -/
theorem lacks_product {left right : String} (hleft : Closes style left)
    (hsums : Lacks style Operation.sums left) (hright : Atomic style right) :
    Lacks style Operation.sums (left ++ " " ++ Operation.mul.symbol ++ " " ++ right) := by
  intro op hop
  have hmul : ∀ op ∈ Operation.sums, op.symbol.toList ≠ Operation.mul.symbol.toList := by decide
  rw [parts_operation hleft, List.mem_append, List.mem_cons, not_or, not_or]
  exact ⟨hsums op hop, hmul op hop, hright.lacks Operation.sums (by decide) op hop⟩

theorem infix?_eq_some {ops : List Operation} {op : Operation} {left right : String}
    (hfind : ops.find? (fun o => o.symbol.toList = op.symbol.toList) = some op)
    (hleft : Closes style left) (hright : Lacks style ops right) :
    infix? style ops (left ++ " " ++ op.symbol ++ " " ++ right).toList =
      some (.binary op left.toList right.toList) := by
  rw [infix?, parts_operation hleft, lastOperation?_append hfind (lastOperation?_eq_none hright)]
  simp only [Option.map_some, intercalate_parts]

theorem enclosed?_eq_some {front inner : String} (h : Safe style inner) :
    enclosed? style front (front ++ inner ++ ")").toList = some inner.toList := by
  have hlist : (front ++ inner ++ ")").toList = front.toList ++ (inner.toList ++ [')']) := by
    simp
  rw [enclosed?, hlist, Reader.skip_append, Option.bind_some, List.getLast?_concat,
    List.dropLast_concat, if_pos ⟨rfl, h 0⟩]

/-! ### values -/

theorem value?_parentheses {inner : String} (h : Safe style inner)
    (hlonger : ∀ o ∈ operands, o.toList.length ≤ inner.toList.length) :
    value? style operands value ("(" ++ inner ++ ")") = value? style operands value inner := by
  have hatomic : Atomic style ("(" ++ inner ++ ")") := atomic_of_calm (Target.calm_parentheses h)
  have hnumeral : isIntegerLiteral ("(" ++ inner ++ ")") = false :=
    isIntegerLiteral_eq_false '(' (by simp) (by decide)
  have houter : ∀ o ∈ operands, o.toList.length < ("(" ++ inner ++ ")").toList.length := by
    intro o ho
    have hinner := hlonger o ho
    simp
    omega
  refine value?_group ?_
  rw [shape_eq hnumeral houter, infix?_eq_none (hatomic.lacks _ (by decide)),
    infix?_eq_none (hatomic.lacks _ (by decide)), enclosed?_eq_some h]
  rfl

/-- A sum or a difference whose right side is none. -/
theorem value?_sum {op : Operation} {left right : String} {x y : Int}
    (hop : op ∈ Operation.sums) (hleft : Closes style left)
    (hright : Lacks style Operation.sums right)
    (hlonger : ∀ o ∈ operands,
      o.toList.length < (left ++ " " ++ op.symbol ++ " " ++ right).toList.length)
    (hx : value? style operands value left = some x)
    (hy : value? style operands value right = some y) :
    value? style operands value (left ++ " " ++ op.symbol ++ " " ++ right) =
      some (op.apply x y) := by
  have hnumeral : isIntegerLiteral (left ++ " " ++ op.symbol ++ " " ++ right) = false :=
    isIntegerLiteral_eq_false ' ' (by simp) (by decide)
  have hfinds : ∀ op ∈ Operation.sums,
      Operation.sums.find? (fun o => o.symbol.toList = op.symbol.toList) = some op := by decide
  refine value?_binary op ?_ hx hy
  rw [shape_eq hnumeral hlonger, infix?_eq_some (hfinds op hop) hleft hright]
  rfl

/-- A product without sums and differences whose right side is no product. -/
theorem value?_product {left right : String} {x y : Int} (hleft : Closes style left)
    (hsums : Lacks style Operation.sums left) (hright : Atomic style right)
    (hlonger : ∀ o ∈ operands,
      o.toList.length < (left ++ " " ++ Operation.mul.symbol ++ " " ++ right).toList.length)
    (hx : value? style operands value left = some x)
    (hy : value? style operands value right = some y) :
    value? style operands value (left ++ " " ++ Operation.mul.symbol ++ " " ++ right) =
      some (x * y) := by
  have hnumeral : isIntegerLiteral (left ++ " " ++ Operation.mul.symbol ++ " " ++ right) = false :=
    isIntegerLiteral_eq_false ' ' (by simp) (by decide)
  refine value?_binary .mul ?_ hx hy
  rw [shape_eq hnumeral hlonger, infix?_eq_none (lacks_product hleft hsums hright),
    infix?_eq_some rfl hleft (hright.lacks _ (by decide))]
  rfl

end

/-! ### calls -/

section

variable {style : QuoteStyle} {operands : List String} {value : String → Int} {a b : String}

theorem bitAnd_pieces (ha : Safe style a) (hb : Safe style b) :
    Safe style ("BITAND(" ++ a ++ ", " ++ b ++ ")") ∧
      Atomic style ("BITAND(" ++ a ++ ", " ++ b ++ ")") := by
  have hparts : ∀ t ∈ Piece.contents [.fixed "BITAND(", .part a, .fixed ", ", .part b, .fixed ")"],
      Safe style t := by
    simp [Piece.contents, ha, hb]
  exact ⟨Piece.safe_parts [.fixed "BITAND(", .part a, .fixed ", ", .part b, .fixed ")"] rfl rfl
      hparts,
    atomic_of_calm (Piece.calm_join [.fixed "BITAND(", .part a, .fixed ", ", .part b, .fixed ")"]
      rfl hparts (by simp [Piece.inner]))⟩

theorem bitAnd?_eq_some (ha : Safe style a) (hb : Safe style b) (hcomma : ',' ∉ surface style a)
    (hcomma' : ',' ∉ surface style b) :
    bitAnd? style ("BITAND(" ++ a ++ ", " ++ b ++ ")").toList =
      some (.binary .bitAnd a.toList b.toList) := by
  have htext : "BITAND(" ++ a ++ ", " ++ b ++ ")" =
      Operation.bitAnd.symbol ++ "(" ++ (a ++ ", " ++ b) ++ ")" := by
    simp [← String.toList_inj, Operation.symbol]
  have hsafe : Safe style (a ++ ", " ++ b) := (ha.append (safe_word rfl)).append hb
  have hblank : ',' ∉ surface style (" " ++ b) := by
    have hone : surface style " " = [' '] := uncovered_bare (List.all_eq_true.1 rfl)
    rw [surface_append (safe_word rfl).closes, hone]
    simpa using hcomma'
  have hparts : parts style ',' (a ++ ", " ++ b).toList = [a.toList, ' ' :: b.toList] := by
    have hlist : (a ++ ", " ++ b).toList = a.toList ++ ',' :: (" " ++ b).toList := by simp
    rw [hlist, parts_append rfl ha.closes, parts_of_notMem_surface rfl hcomma,
      parts_of_notMem_surface rfl hblank]
    simp
  rw [bitAnd?, htext, enclosed?_eq_some hsafe, Option.bind_some, hparts]
  rfl

theorem value?_bitAnd {x y : Int} (ha : Safe style a ∧ Atomic style a)
    (hb : Safe style b ∧ Atomic style b)
    (hlonger : ∀ o ∈ operands, o.toList.length ≤ (a ++ b).toList.length)
    (hx : value? style operands value a = some x) (hy : value? style operands value b = some y) :
    value? style operands value ("BITAND(" ++ a ++ ", " ++ b ++ ")") = some (Int.land x y) := by
  have hatomic := (bitAnd_pieces ha.1 hb.1).2
  have hnumeral : isIntegerLiteral ("BITAND(" ++ a ++ ", " ++ b ++ ")") = false :=
    isIntegerLiteral_eq_false '(' (by simp) (by decide)
  have houter : ∀ o ∈ operands,
      o.toList.length < ("BITAND(" ++ a ++ ", " ++ b ++ ")").toList.length := by
    intro o ho
    have hinner := hlonger o ho
    simp at hinner ⊢
    omega
  have hgroup : enclosed? style "(" ("BITAND(" ++ a ++ ", " ++ b ++ ")").toList = none := by
    simp [enclosed?, Reader.skip]
  refine value?_binary .bitAnd ?_ hx hy
  rw [shape_eq hnumeral houter, infix?_eq_none (hatomic.lacks _ (by decide)),
    infix?_eq_none (hatomic.lacks _ (by decide)), hgroup,
    bitAnd?_eq_some ha.1 hb.1 ha.2.noComma hb.2.noComma]
  rfl

end

/-! ## the operators -/

section

variable {style : QuoteStyle} {value : String → Int} {a b : String}

/-- The sum of two operands, less a text that is no sum and no difference, in parentheses. -/
theorem value?_sum_sub {right : String} {z : Int} (ha : Safe style a)
    (hb : Safe style b ∧ Atomic style b) (hright : Safe style right)
    (hsums : Lacks style Operation.sums right)
    (hoperands : ∀ s ∈ [a, b], value? style [a, b] value s = some (value s))
    (hz : value? style [a, b] value right = some z) :
    value? style [a, b] value ("(" ++ a ++ " + " ++ b ++ " - " ++ right ++ ")") =
      some (value a + value b - z) := by
  let sum := a ++ " " ++ Operation.add.symbol ++ " " ++ b
  let difference := sum ++ " " ++ Operation.sub.symbol ++ " " ++ right
  have htext : "(" ++ a ++ " + " ++ b ++ " - " ++ right ++ ")" = "(" ++ difference ++ ")" := by
    simp [← String.toList_inj, difference, sum, Operation.symbol]
  have hlonger : ∀ o ∈ [a, b],
      o.toList.length < sum.toList.length ∧ sum.toList.length < difference.toList.length := by
    simp [difference, sum]
    omega
  have hsum : Safe style sum := safe_operation ha .add hb.1
  rw [htext, value?_parentheses (safe_operation hsum .sub hright) fun o ho =>
    Nat.le_of_lt ((hlonger o ho).1.trans (hlonger o ho).2)]
  have hvalue : value? style [a, b] value sum = some (value a + value b) :=
    value?_sum (by decide) ha.closes (hb.2.lacks _ (by decide)) (fun o ho => (hlonger o ho).1)
      (hoperands a (by simp)) (hoperands b (by simp))
  exact value?_sum (by decide) hsum.closes hsums
    (fun o ho => (hlonger o ho).1.trans (hlonger o ho).2) hvalue hz

end

end Arithmetic

namespace Dialect.Oracle

open Arithmetic

/-- The texts of the disjunction and of the exclusive one come to the bits that their names promise,
whatever integers the operands stand for.  An operand may be a numeral, which stands for itself. -/
theorem value_bitwise {p : Properties} {t : Target} (ht : target p = .ok t) {a b : String}
    (ha : Safe t.profile.quoteStyle a ∧ Atomic t.profile.quoteStyle a)
    (hb : Safe t.profile.quoteStyle b ∧ Atomic t.profile.quoteStyle b) (value : String → Int)
    (hnumeral : ∀ s ∈ [a, b], ∀ n, integerLiteral? s = some n → value s = n) :
    value? t.profile.quoteStyle [a, b] value (t.scalarText .bitOr [a, b]) =
        some (Int.lor (value a) (value b)) ∧
      value? t.profile.quoteStyle [a, b] value (t.scalarText .bitXor [a, b]) =
        some (Int.xor (value a) (value b)) := by
  obtain ⟨override, rfl⟩ := exists_of_target ht
  let style := (targetOf override).profile.quoteStyle
  let both := "BITAND(" ++ a ++ ", " ++ b ++ ")"
  let twice := "2" ++ " " ++ Operation.mul.symbol ++ " " ++ both
  have hoperands : ∀ s ∈ [a, b], value? style [a, b] value s = some (value s) :=
    fun s hs => value?_of_mem hs (hnumeral s hs)
  have hboth := bitAnd_pieces ha.1 hb.1
  have hland : value? style [a, b] value both = some (Int.land (value a) (value b)) :=
    value?_bitAnd ha hb (by simp) (hoperands a (by simp)) (hoperands b (by simp))
  have htwo : Safe style "2" ∧ Atomic style "2" :=
    ⟨safe_word rfl, atomic_of_calm rfl⟩
  have htwice : value? style [a, b] value twice = some (2 * Int.land (value a) (value b)) := by
    refine value?_product htwo.1.closes (htwo.2.lacks _ (by decide)) hboth.2 ?_
      (value?_numeral rfl) hland
    simp [both]
    omega
  constructor
  · have htext : (targetOf override).scalarText .bitOr [a, b] =
        "(" ++ a ++ " + " ++ b ++ " - " ++ both ++ ")" := by
      simp [Target.scalarText, targetOf, scalarForm, both, ← String.toList_inj]
    rw [htext, lor_eq_sub_land]
    exact value?_sum_sub ha.1 hb hboth.1 (hboth.2.lacks _ (by decide)) hoperands hland
  · have htext : (targetOf override).scalarText .bitXor [a, b] =
        "(" ++ a ++ " + " ++ b ++ " - " ++ twice ++ ")" := by
      simp [Target.scalarText, targetOf, scalarForm, twice, both, Operation.symbol,
        ← String.toList_inj]
    rw [htext, xor_eq_sub_land]
    exact value?_sum_sub ha.1 hb (safe_operation htwo.1 .mul hboth.1)
      (lacks_product htwo.1.closes (htwo.2.lacks _ (by decide)) hboth.2) hoperands htwice

/-- A quoted name that looks like a difference, and a negative number. -/
theorem value_bitwise_negative :
    let value : String → Int := fun s => if s = "-10" then -10 else 12
    value? .double ["\"A - B\"", "-10"] value
        "(\"A - B\" + -10 - BITAND(\"A - B\", -10))" = some (-2) ∧
      value? .double ["\"A - B\"", "-10"] value
        "(\"A - B\" + -10 - 2 * BITAND(\"A - B\", -10))" = some (-6) := by
  have hname : Safe .double "\"A - B\"" ∧ Atomic .double "\"A - B\"" :=
    ⟨fun _ => rfl, atomic_of_calm rfl⟩
  have hnumber : Safe .double "-10" ∧ Atomic .double "-10" := ⟨fun _ => rfl, atomic_of_calm rfl⟩
  intro value
  have hnumeral : ∀ s ∈ ["\"A - B\"", "-10"], ∀ n, integerLiteral? s = some n → value s = n := by
    intro s hs n hn
    simp only [List.mem_cons, List.not_mem_nil, or_false] at hs
    obtain rfl | rfl := hs <;> cases hn
    rfl
  have hbits : Int.lor 12 (-10) = -2 ∧ Int.xor 12 (-10) = -6 := by decide +kernel
  have hvalues := value_bitwise (p := {}) rfl hname hnumber value hnumeral
  exact ⟨hvalues.1.trans (congrArg some hbits.1), hvalues.2.trans (congrArg some hbits.2)⟩

end Dialect.Oracle

end RemoteQuery
