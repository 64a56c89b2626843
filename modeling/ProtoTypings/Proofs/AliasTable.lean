import ProtoTypings.Proofs.DescriptorSets

namespace ProtoTypings.Module

def ClashesWith (earlier : List String) (x : String) : Prop :=
  ∃ q ∈ earlier, q ≠ x ∧ aliasOf q = aliasOf x

/-- The clash a list of paths meets first: `second` is the earliest path whose alias an earlier,
different path has, and `first` is the earliest path with that alias. -/
def FirstClash (paths : List String) (first second : String) : Prop :=
  (∃ pre post, paths = pre ++ second :: post ∧ ClashesWith pre second ∧
    ∀ pre' x post', paths = pre' ++ x :: post' → ClashesWith pre' x → pre.length ≤ pre'.length) ∧
  ∃ pre post, paths = pre ++ first :: post ∧ aliasOf first = aliasOf second ∧
    ∀ q ∈ pre, aliasOf q ≠ aliasOf second

theorem firstMentions_congr {seen seen' : List String} (same : ∀ x, x ∈ seen ↔ x ∈ seen')
    (xs : List String) : Emit.firstMentions seen xs = Emit.firstMentions seen' xs := by
  rw [Emit.firstMentions_eq, Emit.firstMentions_eq]
  exact congrArg List.eraseDups (List.filter_congr fun x _ => by simp [same x])

theorem takeIn_ok_eq {paths : List String} :
    ∀ {seen out : List String}, takeIn seen paths = .ok out →
      out = seen ++ Emit.firstMentions seen paths := by
  induction paths with
  | nil => intro seen out ok; cases ok; simp [Emit.firstMentions]
  | cons p rest ih =>
    intro seen out ok
    unfold takeIn at ok
    split at ok
    · rename_i present
      rw [ih ok, Emit.firstMentions, if_pos present]
    · rename_i absent
      split at ok
      · cases ok
      · rw [ih ok, Emit.firstMentions, if_neg absent,
          @firstMentions_congr (seen ++ [p]) (p :: seen) (fun x => by simp [or_comm]) rest]
        simp

theorem takeIn_error_at {paths : List String} :
    ∀ {seen : List String} {e : Failure}, Set.InjOn aliasOf {p | p ∈ seen} →
      takeIn seen paths = .error e →
      ∃ pre second post first, paths = pre ++ second :: post ∧ second ∉ seen ∧ second ∉ pre ∧
        Set.InjOn aliasOf {p | p ∈ seen ∨ p ∈ pre} ∧ (first ∈ seen ∨ first ∈ pre) ∧
        aliasOf first = aliasOf second ∧ e = .aliasClash (aliasOf second) first second := by
  induction paths with
  | nil => intro seen e _ failed; cases failed
  | cons p rest ih =>
    intro seen e distinct failed
    unfold takeIn at failed
    split at failed
    · -- a path already taken is skipped: it joins the paths before `second`
      rename_i present
      obtain ⟨pre, second, post, first, rfl, fresh, new, apart, met, same, rfl⟩ :=
        ih distinct failed
      have other : second ≠ p := fun equal => fresh (equal ▸ present)
      refine ⟨p :: pre, second, post, first, rfl, fresh, by simp [other, new], ?_, ?_, same, rfl⟩
      · refine apart.mono fun q member => ?_
        rcases member with old | member
        · exact .inl old
        rcases List.mem_cons.mp member with rfl | later
        · exact .inl present
        · exact .inr later
      · rcases met with old | later
        · exact .inl old
        · exact .inr (List.mem_cons_of_mem p later)
    · rename_i absent
      split at failed
      · -- the clash: an earlier path has the alias of `p`
        rename_i q found
        cases failed
        refine ⟨[], p, rest, q, rfl, absent, List.not_mem_nil, ?_, ?_, ?_, rfl⟩
        · exact distinct.mono fun x member => by simpa using member
        · exact .inl (List.mem_of_find?_eq_some found)
        · simpa using List.find?_some found
      · rename_i fresh
        obtain ⟨pre, second, post, first, rfl, notTaken, new, apart, met, same, rfl⟩ :=
          ih (injOn_append_of_fresh distinct fresh) failed
        have regroup : ∀ x, (x ∈ seen ++ [p] ∨ x ∈ pre) ↔ (x ∈ seen ∨ x ∈ p :: pre) := by
          intro x
          simp only [List.mem_append, List.mem_cons, List.not_mem_nil, or_false]
          tauto
        refine ⟨p :: pre, second, post, first, rfl, fun old => notTaken (by simp [old]), ?_, ?_,
          (regroup first).mp met, same, rfl⟩
        · have other : second ≠ p := fun equal => notTaken (by simp [equal])
          simp [other, new]
        · exact apart.mono fun x member => (regroup x).mpr member

theorem firstClash_of_split {paths pre post : List String} {first second : String}
    (split : paths = pre ++ second :: post) (new : second ∉ pre)
    (apart : Set.InjOn aliasOf {p | p ∈ pre}) (met : first ∈ pre)
    (same : aliasOf first = aliasOf second) : FirstClash paths first second := by
  refine ⟨⟨pre, post, split, ⟨first, met, fun equal => new (equal ▸ met), same⟩, ?_⟩, ?_⟩
  · intro pre' x post' split' clash
    by_contra shorter
    -- an earlier clash would lie inside `pre`, where aliases are apart
    have inside : pre' ++ [x] <+: pre := by
      refine List.prefix_of_prefix_length_le ?_ ⟨second :: post, split.symm⟩ (by simp; omega)
      exact ⟨post', by rw [split']; simp⟩
    obtain ⟨q, member, other, sameAlias⟩ := clash
    have inPre : q ∈ pre := inside.subset (List.mem_append_left _ member)
    have xInPre : x ∈ pre := inside.subset (by simp)
    exact other (apart inPre xInPre sameAlias)
  · obtain ⟨a, b, notBefore, rfl, -⟩ := List.exists_erase_eq met
    refine ⟨a, b ++ second :: post, by simp [split], same, ?_⟩
    intro q member sameAlias
    have equal : q = first :=
      apart (List.mem_append_left _ member) (by simp) (sameAlias.trans same.symm)
    exact notBefore (equal ▸ member)

theorem card_toFinset_eq (paths : List String) :
    paths.toFinset.card = (Emit.firstMentions [] paths).length := by
  rw [← List.toFinset_card_of_nodup (Emit.firstMentions_nodup [] paths).1]
  congr 1
  ext x
  simp [Emit.firstMentions_eq]

theorem byPath_build {paths : List String} {t : AliasTable} (built : AliasTable.build paths = .ok t)
    (p : String) : t.byPath[p]? = if p ∈ paths then some (aliasOf p) else none := by
  obtain ⟨seen, byAlias, taken, tracks⟩ := build_ok built
  have cachedIff : p ∈ t.byPath ↔ p ∈ paths := by
    rw [tracks.cachedIff, takeIn_ok_eq taken, List.nil_append, Emit.firstMentions_eq]
    simp
  by_cases listed : p ∈ paths
  · obtain ⟨a, found⟩ := Option.isSome_iff_exists.mp
      (Std.TreeMap.isSome_getElem?_iff_mem.mpr (cachedIff.mpr listed))
    rw [if_pos listed, found, t.cached p a found]
  · rw [if_neg listed, Std.TreeMap.getElem?_eq_none (mt cachedIff.mp listed)]

/-- Building the alias table of a list of paths succeeds exactly when no two distinct paths share
an alias. A table that is built caches each distinct path once, with its alias, and nothing else,
so its size is the number of distinct paths; and it gives every path, cached or not, its alias. A
refusal names the alias, the earliest path with it and the earliest path that meets the alias of
an earlier, different path. -/
theorem build_exact (paths : List String) :
    ((∃ t, AliasTable.build paths = .ok t) ↔ Set.InjOn aliasOf {p | p ∈ paths}) ∧
    (∀ t, AliasTable.build paths = .ok t →
      t.size = paths.toFinset.card ∧
      (∀ p, t.byPath[p]? = if p ∈ paths then some (aliasOf p) else none) ∧
      ∀ p, t.aliasFor p = aliasOf p) ∧
    (∀ e, AliasTable.build paths = .error e →
      ∃ first second, FirstClash paths first second ∧
        e = .aliasClash (aliasOf second) first second) := by
  refine ⟨build_ok_iff paths, fun t built => ⟨?_, byPath_build built, t.aliasFor_eq⟩, ?_⟩
  · obtain ⟨seen, byAlias, taken, tracks⟩ := build_ok built
    rw [AliasTable.size, tracks.size, takeIn_ok_eq taken, List.nil_append, card_toFinset_eq]
  · intro e failed
    obtain ⟨pre, second, post, first, split, -, new, apart, met, same, rfl⟩ :=
      takeIn_error_at (by simp [Set.InjOn]) (build_error_iff.mp failed)
    refine ⟨first, second, firstClash_of_split split new ?_ ?_ same, rfl⟩
    · exact apart.mono fun p member => .inr member
    · simpa using met

example :
    AliasTable.build ["a/b.proto", "c.proto", "a_b.proto", "c.proto"] =
      .error (.aliasClash "a_b_pb" "a/b.proto" "a_b.proto") := by
  rfl

end ProtoTypings.Module
