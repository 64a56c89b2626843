import ProtoTypings.Proofs.Words
import ProtoTypings.Proofs.Aliases

namespace ProtoTypings.Module

/-- The alias of a path before its digit guard and suffix: the stem with every character other
than an ASCII letter or digit replaced by `_`. -/
def aliasStem (path : String) : List Char :=
  (stemChars path.toList).map aliasChar

def startsWithDigit (cs : List Char) : Bool :=
  cs.head?.any Char.isDigit

theorem aliasBody_eq (cs : List Char) :
    aliasBody cs = if startsWithDigit cs then '_' :: cs else cs := by
  cases cs with
  | nil => rfl
  | cons c rest => by_cases digit : c.isDigit <;> simp [aliasBody, startsWithDigit, digit]

theorem aliasOf_toList (path : String) :
    (aliasOf path).toList = aliasBody (aliasStem path) ++ ['_', 'p', 'b'] := by
  simp [aliasOf, aliasStem]

theorem startsWithDigit_underscore (cs : List Char) : startsWithDigit ('_' :: cs) = false := rfl

theorem aliasBody_eq_iff (xs ys : List Char) :
    aliasBody xs = aliasBody ys ↔
      xs = ys ∨ (xs = '_' :: ys ∧ startsWithDigit ys = true) ∨
        (ys = '_' :: xs ∧ startsWithDigit xs = true) := by
  rw [aliasBody_eq, aliasBody_eq]
  -- a stem with `_` in front never starts with a digit, so at most one side is guarded
  cases hx : startsWithDigit xs <;> cases hy : startsWithDigit ys
  · simp only [Bool.false_eq_true, if_false, and_false, or_false]
  · simp only [Bool.false_eq_true, if_false, if_true, and_true, and_false, or_false]
    constructor
    · exact fun same => .inr same
    · rintro (same | same)
      · rw [same, hy] at hx
        cases hx
      · exact same
  · simp only [Bool.false_eq_true, if_false, if_true, and_true, and_false, false_or]
    constructor
    · exact fun same => .inr same.symm
    · rintro (same | same)
      · rw [same, hy] at hx
        cases hx
      · exact same.symm
  · simp only [if_true, List.cons.injEq, true_and, and_true]
    constructor
    · exact .inl
    · rintro (same | same | same)
      · exact same
      · rw [same, startsWithDigit_underscore] at hx
        cases hx
      · rw [same, startsWithDigit_underscore] at hy
        cases hy

theorem aliasOf_eq_iff (p q : String) :
    aliasOf p = aliasOf q ↔ aliasBody (aliasStem p) = aliasBody (aliasStem q) := by
  rw [← String.toList_inj, aliasOf_toList, aliasOf_toList]
  exact ⟨List.append_cancel_right, fun same => by rw [same]⟩

theorem aliasChar_named (c : Char) : (aliasChar c).isAlphanum = true ∨ aliasChar c = '_' := by
  unfold aliasChar
  split
  · exact .inl ‹_›
  · exact .inr rfl

theorem isIdentifier_of_cons {c : Char} {rest : List Char} (first : c.isAlpha = true ∨ c = '_')
    (later : ∀ d ∈ rest, d.isAlphanum = true ∨ d = '_') :
    Text.isIdentifier (String.ofList (c :: rest)) = true := by
  have first' : (c.isAlpha || c == '_') = true := by
    rcases first with alpha | rfl
    · simp [alpha]
    · rfl
  have later' : rest.all (fun d => d.isAlphanum || d == '_') = true := by
    simpa using later
  simp only [Text.isIdentifier, String.toList_ofList, first', later', Bool.and_self]

theorem isIdentifier_aliasOf (path : String) : Text.isIdentifier (aliasOf path) = true := by
  have named : ∀ d ∈ aliasStem path, d.isAlphanum = true ∨ d = '_' := by
    intro d member
    obtain ⟨c, -, rfl⟩ := List.mem_map.mp member
    exact aliasChar_named c
  have suffix : ∀ d ∈ ['_', 'p', 'b'], d.isAlphanum = true ∨ d = '_' := by
    simp [Char.isAlphanum]
  have spelled : aliasOf path = String.ofList (aliasBody (aliasStem path) ++ ['_', 'p', 'b']) := by
    rw [← String.toList_inj, String.toList_ofList]
    exact aliasOf_toList path
  rw [spelled]
  cases stem : aliasStem path with
  | nil => exact isIdentifier_of_cons (.inr rfl) fun d member => suffix d (.tail _ member)
  | cons c rest =>
    rw [stem] at named
    have restNamed : ∀ d ∈ rest ++ ['_', 'p', 'b'], d.isAlphanum = true ∨ d = '_' := by
      intro d member
      rcases List.mem_append.mp member with inRest | inSuffix
      · exact named d (List.mem_cons_of_mem c inRest)
      · exact suffix d inSuffix
    by_cases digit : c.isDigit
    · -- a leading digit is guarded by a `_`, and goes on as part of the rest
      have guarded : aliasBody (c :: rest) = '_' :: c :: rest := by simp [aliasBody, digit]
      rw [guarded, List.cons_append]
      refine isIdentifier_of_cons (.inr rfl) fun d member => ?_
      rcases List.mem_cons.mp member with rfl | inRest
      · exact .inl (by simp [Char.isAlphanum, digit])
      · exact restNamed d inRest
    · -- any other first character is a letter or `_`
      have kept : aliasBody (c :: rest) = c :: rest := by simp [aliasBody, digit]
      rw [kept, List.cons_append]
      refine isIdentifier_of_cons ?_ restNamed
      rcases named c List.mem_cons_self with alphanumeric | underscore
      · exact .inl (by simpa [Char.isAlphanum, digit] using alphanumeric)
      · exact .inr underscore

/-- The alias of a path is its replaced stem with `_pb` at the end, and a `_` in front when the
stem starts with a digit. It is an ASCII identifier (non-empty, of letters, digits and `_`, not
starting with a digit), never the runtime's alias, and two paths share it exactly when their
replaced stems are equal, or one is the other, which starts with a digit, with a `_` in front. -/
theorem alias_derivation (p : String) :
    aliasOf p =
        (if startsWithDigit (aliasStem p) then "_" ++ String.ofList (aliasStem p) ++ "_pb"
        else String.ofList (aliasStem p) ++ "_pb") ∧
      Text.isIdentifier (aliasOf p) = true ∧
      aliasOf p ≠ runtimeAlias ∧
      ∀ q, aliasOf p = aliasOf q ↔
        aliasStem p = aliasStem q ∨
          (aliasStem p = '_' :: aliasStem q ∧ startsWithDigit (aliasStem q) = true) ∨
          (aliasStem q = '_' :: aliasStem p ∧ startsWithDigit (aliasStem p) = true) := by
  refine ⟨?_, isIdentifier_aliasOf p, aliasOf_ne_runtimeAlias p,
    fun q => (aliasOf_eq_iff p q).trans (aliasBody_eq_iff _ _)⟩
  rw [← String.toList_inj, aliasOf_toList, aliasBody_eq]
  split <;> simp

end ProtoTypings.Module
