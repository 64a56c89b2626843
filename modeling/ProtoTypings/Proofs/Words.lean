import ProtoTypings.Text.Case
import ProtoTypings.Module.Alias

namespace ProtoTypings.Text

def isSeparator (c : Char) : Bool :=
  c == ' ' || c == '\n'

/-- A text with no space and no line break. -/
def Word (cs : List Char) : Prop :=
  ∀ c ∈ cs, isSeparator c = false

/-- A non-empty ASCII identifier: a letter or `_`, then letters, digits and `_`. -/
def isIdentifier (s : String) : Bool :=
  match s.toList with
  | [] => false
  | c :: rest => (c.isAlpha || c == '_') && rest.all fun d => d.isAlphanum || d == '_'

theorem word_append {xs ys : List Char} : Word (xs ++ ys) ↔ Word xs ∧ Word ys := by
  simp only [Word, List.mem_append]
  exact ⟨fun h => ⟨fun c m => h c (.inl m), fun c m => h c (.inr m)⟩,
    fun h c m => m.elim (h.1 c) (h.2 c)⟩

theorem newline_not_mem_of_word {cs : List Char} (word : Word cs) : '\n' ∉ cs :=
  fun member => by simpa [isSeparator] using word '\n' member

theorem space_not_mem_of_word {cs : List Char} (word : Word cs) : ' ' ∉ cs :=
  fun member => by simpa [isSeparator] using word ' ' member

theorem toNat_ofNat_cases (n : Nat) : (Char.ofNat n).toNat = n ∨ (Char.ofNat n).toNat = 0 := by
  by_cases valid : n.isValidChar
  · exact .inl (by rw [Char.ofNat, dif_pos valid]; rfl)
  · exact .inr (by rw [Char.ofNat, dif_neg valid]; rfl)

theorem ofNat_not_separator {n : Nat} (above : 0x20 < n) : isSeparator (Char.ofNat n) = false := by
  have code := toNat_ofNat_cases n
  have notSpace : Char.ofNat n ≠ ' ' := by
    intro same
    have := congrArg Char.toNat same
    have space : ' '.toNat = 0x20 := rfl
    omega
  have notNewline : Char.ofNat n ≠ '\n' := by
    intro same
    have := congrArg Char.toNat same
    have newline : '\n'.toNat = 0x0A := rfl
    omega
  simp [isSeparator, notSpace, notNewline]

theorem capitalRuns_above : ∀ r ∈ capitalRuns, (0x20 : Int) < r.first + r.shift := by
  decide +kernel

theorem capitalExpansions_above :
    ∀ p ∈ capitalExpansions, p.2 ≠ [] ∧ ∀ m ∈ p.2, 0x20 < m := by
  decide +kernel

theorem forall_mem_capitalsOf {P : Char → Prop} {c : Char} (self : P c)
    (expanded : ∀ ns, (c.toNat, ns) ∈ capitalExpansions → ∀ m ∈ ns, P (Char.ofNat m))
    (shifted : ∀ r ∈ capitalRuns, r.first ≤ c.toNat → c.toNat ≤ r.last →
      P (Char.ofNat (c.toNat + r.shift).toNat)) :
    ∀ d ∈ capitalsOf c, P d := by
  unfold capitalsOf
  split
  · rename_i ns found
    obtain ⟨pre, post, split, -⟩ := List.lookup_eq_some_iff.mp found
    intro d member
    obtain ⟨m, inNs, rfl⟩ := List.mem_map.mp member
    exact expanded ns (by simp [split]) m inNs
  · split
    · rename_i r found
      have covered : r.first ≤ c.toNat ∧ c.toNat ≤ r.last := by
        have := List.find?_some found
        simp only [CaseRun.covers, Bool.and_eq_true, decide_eq_true_eq] at this
        exact this.1
      intro d member
      rw [List.mem_singleton.mp member]
      exact shifted r (List.mem_of_find?_eq_some found) covered.1 covered.2
    · intro d member
      rw [List.mem_singleton.mp member]
      exact self

theorem capitalsOf_ne_nil (c : Char) : capitalsOf c ≠ [] := by
  unfold capitalsOf
  split
  · rename_i ns found
    obtain ⟨pre, post, split, -⟩ := List.lookup_eq_some_iff.mp found
    have listed : (c.toNat, ns) ∈ capitalExpansions := by simp [split]
    simpa using (capitalExpansions_above _ listed).1
  · split <;> simp

theorem capitalsOf_forall {P : Char → Prop} {c : Char} (self : P c)
    (above : ∀ n, 0x20 < n → P (Char.ofNat n)) : ∀ d ∈ capitalsOf c, P d :=
  -- the table's capitals all lie above the space
  forall_mem_capitalsOf self
    (fun ns listed m inNs => above m ((capitalExpansions_above _ listed).2 m inNs))
    (fun r listed _ _ => above _ (by have := capitalRuns_above r listed; omega))

/-- The camel form keeps every property of characters that all characters above the space
have. -/
theorem camelChars_forall {P : Char → Prop} (above : ∀ n, 0x20 < n → P (Char.ofNat n))
    {cs : List Char} (all : ∀ c ∈ cs, P c) :
    ∀ started raise, ∀ d ∈ camelChars started raise cs, P d := by
  induction cs with
  | nil => intro _ _; simp [camelChars]
  | cons c rest ih =>
    intro started raise
    have tail : ∀ d ∈ rest, P d := fun d member => all d (List.mem_cons_of_mem c member)
    unfold camelChars
    split
    · exact ih tail started started
    · intro d member
      rcases List.mem_append.mp member with head | later
      · split at head
        · exact capitalsOf_forall (all c List.mem_cons_self) above d head
        · exact List.mem_singleton.mp head ▸ all c List.mem_cons_self
      · exact ih tail true false d later

theorem raiseHead_forall {P : Char → Prop} (above : ∀ n, 0x20 < n → P (Char.ofNat n))
    {cs : List Char} (all : ∀ c ∈ cs, P c) : ∀ d ∈ raiseHead cs, P d := by
  cases cs with
  | nil => simp [raiseHead]
  | cons c rest =>
    intro d member
    rcases List.mem_append.mp member with head | later
    · exact capitalsOf_forall (all c List.mem_cons_self) above d head
    · exact all d (List.mem_cons_of_mem c later)

theorem capitalize_forall {P : Char → Prop} (above : ∀ n, 0x20 < n → P (Char.ofNat n))
    {s : String} (all : ∀ c ∈ s.toList, P c) : ∀ d ∈ (capitalize s).toList, P d := by
  intro d member
  rw [capitalize, String.toList_ofList] at member
  obtain ⟨c, inS, inCaps⟩ := List.mem_flatMap.mp member
  exact capitalsOf_forall (all c inS) above d inCaps

theorem camelChars_word {cs : List Char} (word : Word cs) :
    ∀ started raise, Word (camelChars started raise cs) :=
  camelChars_forall (fun _ above => ofNat_not_separator above) word

theorem raiseHead_word {cs : List Char} (word : Word cs) : Word (raiseHead cs) :=
  raiseHead_forall (fun _ above => ofNat_not_separator above) word

theorem camelCase_word {s : String} (word : Word s.toList) : Word (camelCase s).toList := by
  simpa [camelCase] using camelChars_word word false false

theorem upperCamelCase_word {s : String} (word : Word s.toList) :
    Word (upperCamelCase s).toList := by
  simpa [upperCamelCase] using raiseHead_word (camelChars_word word false false)

theorem screamingCase_word {s : String} (word : Word s.toList) :
    Word (screamingCase s).toList ∧ (s.toList ≠ [] → (screamingCase s).toList ≠ []) := by
  refine ⟨capitalize_forall (fun _ above => ofNat_not_separator above) word, fun nonempty => ?_⟩
  simp only [screamingCase, capitalize, String.toList_ofList]
  obtain ⟨c, rest, split⟩ := List.exists_cons_of_ne_nil nonempty
  rw [split, List.flatMap_cons]
  exact List.append_ne_nil_of_left_ne_nil (capitalsOf_ne_nil c) _

theorem isSeparator_of_named {d : Char} (named : d.isAlphanum = true ∨ d = '_') :
    isSeparator d = false := by
  rcases named with alphanumeric | rfl
  · cases spaced : isSeparator d
    · rfl
    · simp only [isSeparator, Bool.or_eq_true, beq_iff_eq] at spaced
      rcases spaced with rfl | rfl <;> simp at alphanumeric
  · rfl

theorem word_of_isIdentifier {s : String} (ident : isIdentifier s = true) :
    Word s.toList ∧ s.toList ≠ [] := by
  unfold isIdentifier at ident
  split at ident
  · cases ident
  · rename_i c rest split
    rw [split]
    simp only [Bool.and_eq_true, Bool.or_eq_true, beq_iff_eq, List.all_eq_true] at ident
    obtain ⟨first, later⟩ := ident
    refine ⟨fun d member => isSeparator_of_named ?_, List.cons_ne_nil c rest⟩
    rcases List.mem_cons.mp member with rfl | inRest
    · rcases first with letter | underscore
      · exact .inl (by simp [Char.isAlphanum, letter])
      · exact .inr underscore
    · exact later d inRest

theorem aliasOf_word (path : String) : Word (Module.aliasOf path).toList := by
  have charWord : ∀ c, isSeparator (Module.aliasChar c) = false := by
    intro c
    unfold Module.aliasChar
    split
    · exact isSeparator_of_named (.inl ‹_›)
    · rfl
  have body : ∀ cs : List Char, Word cs → Word (Module.aliasBody cs) := by
    intro cs word
    cases cs with
    | nil => exact word
    | cons c rest =>
      simp only [Module.aliasBody]
      split
      · intro d member
        rcases List.mem_cons.mp member with rfl | inRest
        · rfl
        · exact word d inRest
      · exact word
  unfold Module.aliasOf
  rw [String.toList_append, String.toList_ofList]
  refine word_append.mpr ⟨body _ fun c member => ?_, by simp [Word, isSeparator]⟩
  obtain ⟨d, -, rfl⟩ := List.mem_map.mp member
  exact charWord d

theorem intText_word (n : Int) : Word (toString n).toList := by
  have digits : ∀ m : Nat, Word (Nat.repr m).toList := by
    intro m c member
    rw [Nat.toList_repr] at member
    have digit := Nat.isDigit_of_mem_toDigits (by decide) (by decide) member
    exact isSeparator_of_named (.inl (by simp [Char.isAlphanum, digit]))
  cases n with
  | ofNat m => exact digits m
  | negSucc m =>
    show Word ("-" ++ Nat.repr (m + 1)).toList
    rw [String.toList_append]
    exact word_append.mpr ⟨by simp [Word, isSeparator], digits (m + 1)⟩

end ProtoTypings.Text
