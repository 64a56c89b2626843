import ProtoTypings.Proofs.Words

namespace ProtoTypings.Text

/-- The words of a snake-case name: the pieces between its underscores, empty pieces left out. -/
def snakeWords (cs : List Char) : List (List Char) :=
  (cs.splitOn '_').filter fun w => !w.isEmpty

def camelJoin : List (List Char) → List Char
  | [] => []
  | w :: ws => w ++ ws.flatMap raiseHead

@[simp] theorem raiseHead_nil : raiseHead [] = [] := rfl

theorem splitOn_underscore_cons (c : Char) (cs : List Char) :
    (c :: cs).splitOn '_' =
      if c = '_' then [] :: cs.splitOn '_' else (cs.splitOn '_').modifyHead (c :: ·) := by
  simp [List.splitOn, List.splitOnP_cons_eq_if_modifyHead]

theorem splitOn_of_ne_underscore {c : Char} (other : c ≠ '_') (cs : List Char) :
    ∃ w ws, cs.splitOn '_' = w :: ws ∧ (c :: cs).splitOn '_' = (c :: w) :: ws := by
  have nonempty : cs.splitOn '_' ≠ [] := List.splitOnP_ne_nil _ cs
  obtain ⟨w, ws, split⟩ := List.exists_cons_of_ne_nil nonempty
  exact ⟨w, ws, split, by rw [splitOn_underscore_cons, if_neg other, split]; rfl⟩

theorem flatMap_raiseHead_filter (ws : List (List Char)) :
    (ws.filter fun w => !w.isEmpty).flatMap raiseHead = ws.flatMap raiseHead := by
  induction ws with
  | nil => rfl
  | cons w rest ih => cases w <;> simp [ih]

/- Once output exists, the camel form raises the first character of every piece after an
underscore; the flag `raise` says whether the first piece is raised too. Both cases are proved
together, by induction on the characters: an underscore starts a raised piece, any other
character extends the current one. -/
theorem camelChars_started (cs : List Char) :
    camelChars true true cs = (cs.splitOn '_').flatMap raiseHead ∧
      camelChars true false cs = camelJoin (cs.splitOn '_') := by
  induction cs with
  | nil => exact ⟨rfl, rfl⟩
  | cons c rest ih =>
    by_cases underscore : c = '_'
    · subst underscore
      simp [camelChars_underscore, splitOn_underscore_cons, camelJoin, ih.1]
    · obtain ⟨w, ws, split, consSplit⟩ := splitOn_of_ne_underscore underscore rest
      rw [split] at ih
      simp only [camelChars, if_neg underscore, consSplit, ih.2, camelJoin, List.flatMap_cons,
        raiseHead, if_true, Bool.false_eq_true, if_false, List.append_assoc, List.cons_append,
        List.nil_append, and_self]

theorem camelChars_words (cs : List Char) :
    camelChars false false cs = camelJoin (snakeWords cs) := by
  induction cs with
  | nil => rfl
  | cons c rest ih =>
    by_cases underscore : c = '_'
    · subst underscore
      rw [camelChars_underscore, ih, snakeWords, snakeWords, splitOn_underscore_cons, if_pos rfl]
      rfl
    · obtain ⟨w, ws, split, consSplit⟩ := splitOn_of_ne_underscore underscore rest
      have later := (camelChars_started rest).2
      rw [split] at later
      simp only [camelChars, if_neg underscore, later, snakeWords, consSplit, camelJoin,
        List.filter_cons, List.isEmpty_cons, Bool.not_false, if_true, flatMap_raiseHead_filter,
        Bool.false_eq_true, if_false, List.cons_append, List.nil_append]

theorem capitalRuns_apart_underscore :
    ∀ r ∈ capitalRuns, (0x5F : Int) < r.first + r.shift ∨ r.last + r.shift < 0x5F := by
  decide +kernel

theorem capitalExpansions_no_underscore : ∀ p ∈ capitalExpansions, ∀ m ∈ p.2, m ≠ 0x5F := by
  decide +kernel

theorem ofNat_ne_underscore {n : Nat} (other : n ≠ 0x5F) : Char.ofNat n ≠ '_' := by
  have code := toNat_ofNat_cases n
  intro same
  have underscore : '_'.toNat = 0x5F := rfl
  rw [same, underscore] at code
  omega

theorem underscore_not_mem_capitalsOf {c : Char} (other : c ≠ '_') : '_' ∉ capitalsOf c := by
  have apart : ∀ d ∈ capitalsOf c, d ≠ '_' := by
    refine forall_mem_capitalsOf other (fun ns listed m inNs => ?_)
      (fun r listed first last => ?_)
    · -- an expansion: code points of the table, none of them that of `_`
      exact ofNat_ne_underscore (capitalExpansions_no_underscore _ listed m inNs)
    · -- a run: all of its capitals lie on one side of `_`
      have side := capitalRuns_apart_underscore r listed
      exact ofNat_ne_underscore (by omega)
  exact fun member => apart '_' member rfl

theorem underscore_not_mem_camelChars (cs : List Char) :
    ∀ started raise, '_' ∉ camelChars started raise cs := by
  induction cs with
  | nil => intro _ _; simp [camelChars]
  | cons c rest ih =>
    intro started raise
    by_cases underscore : c = '_'
    · subst underscore
      rw [camelChars_underscore]
      exact ih started started
    · rw [camelChars, if_neg underscore, List.mem_append, not_or]
      refine ⟨?_, ih true false⟩
      split
      · exact underscore_not_mem_capitalsOf underscore
      · simpa using Ne.symm underscore

theorem camelChars_of_underscore_free {cs : List Char} (free : '_' ∉ cs) :
    ∀ started, camelChars started false cs = cs := by
  induction cs with
  | nil => intro _; rfl
  | cons c rest ih =>
    intro started
    have other : c ≠ '_' := fun same => free (same ▸ List.mem_cons_self)
    rw [camelChars, if_neg other, if_neg Bool.false_ne_true,
      ih (fun member => free (List.mem_cons_of_mem c member))]
    rfl

/-- The camel form of a name is its words, the first as it is and each later one with its first
character in capitals; it holds no underscore, so converting it again changes nothing; and the
upper camel form is the camel form with its first character in capitals, empty when that is. -/
theorem camelCase_words (s : String) :
    (camelCase s).toList = camelJoin (snakeWords s.toList) ∧
      '_' ∉ (camelCase s).toList ∧
      camelCase (camelCase s) = camelCase s ∧
      (upperCamelCase s).toList = raiseHead (camelCase s).toList := by
  have free : '_' ∉ (camelCase s).toList := by
    rw [camelCase, String.toList_ofList]
    exact underscore_not_mem_camelChars _ false false
  refine ⟨by rw [camelCase, String.toList_ofList, camelChars_words], free, ?_, ?_⟩
  · have again : camelCase (camelCase s) =
        String.ofList (camelChars false false (camelCase s).toList) := rfl
    rw [again, camelChars_of_underscore_free free false, String.ofList_toList]
  · simp [upperCamelCase, camelCase]

end ProtoTypings.Text
