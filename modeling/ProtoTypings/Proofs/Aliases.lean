import Mathlib.Data.Set.Function
import ProtoTypings.Module.Alias

namespace ProtoTypings.Module

def takeIn (seen : List String) : List String → Except Failure (List String)
  | [] => .ok seen
  | p :: rest =>
    if p ∈ seen then takeIn seen rest
    else
      match seen.find? (fun q => aliasOf q == aliasOf p) with
      | some q => .error (.aliasClash (aliasOf p) q p)
      | none => takeIn (seen ++ [p]) rest

/-- A table and its map from aliases to paths, against the list of paths taken in: the table
caches exactly those paths, and each alias maps to the first of them that has it. -/
structure Tracks (t : AliasTable) (byAlias : Std.TreeMap String String) (seen : List String) :
    Prop where
  cachedIff : ∀ p, p ∈ t.byPath ↔ p ∈ seen
  size : t.byPath.size = seen.length
  holders : ∀ a, byAlias[a]? = seen.find? (fun q => aliasOf q == a)

theorem tracks_empty : Tracks AliasTable.empty ∅ [] :=
  ⟨fun p => by simp [AliasTable.empty], by simp [AliasTable.empty], fun a => by simp⟩

theorem Tracks.cache {t : AliasTable} {byAlias : Std.TreeMap String String} {seen : List String}
    {p : String} (tracks : Tracks t byAlias seen) (absent : p ∉ seen)
    (fresh : seen.find? (fun q => aliasOf q == aliasOf p) = none) :
    Tracks (t.cache p) (byAlias.insert (aliasOf p) p) (seen ++ [p]) := by
  have notCached : p ∉ t.byPath := fun cached => absent ((tracks.cachedIff p).mp cached)
  refine ⟨fun q => ?_, ?_, fun a => ?_⟩
  · rw [AliasTable.cache, Std.TreeMap.mem_insert, Std.LawfulEqCmp.compare_eq_iff_eq,
      tracks.cachedIff q, List.mem_append, List.mem_singleton]
    exact or_comm.trans (or_congr_right eq_comm)
  · rw [AliasTable.cache, Std.TreeMap.size_insert, tracks.size, List.length_append,
      List.length_singleton]
    simp [Std.TreeMap.contains_iff_mem, notCached]
  · rw [Std.TreeMap.getElem?_insert, List.find?_append]
    by_cases same : aliasOf p = a
    · subst same
      simp [fresh]
    · have apart : compare (aliasOf p) a ≠ .eq := mt Std.LawfulEqCmp.compare_eq_iff_eq.mp same
      rw [if_neg apart, tracks.holders a]
      cases seen.find? (fun q => aliasOf q == a) with
      | some q => rfl
      | none => simp [same]

def Agrees : Except Failure AliasTable → Except Failure (List String) → Prop
  | .error e, .error e' => e = e'
  | .ok t, .ok seen => ∃ byAlias, Tracks t byAlias seen
  | _, _ => False

theorem extend_agrees {paths : List String} :
    ∀ {t : AliasTable} {byAlias : Std.TreeMap String String} {seen : List String},
      Tracks t byAlias seen → Agrees (t.extend byAlias paths) (takeIn seen paths) := by
  induction paths with
  | nil => intro t byAlias seen tracks; exact ⟨byAlias, tracks⟩
  | cons p rest ih =>
    intro t byAlias seen tracks
    unfold AliasTable.extend takeIn
    by_cases present : p ∈ seen
    · rw [if_pos ((tracks.cachedIff p).mpr present), if_pos present]
      exact ih tracks
    · rw [if_neg (mt (tracks.cachedIff p).mp present), if_neg present, tracks.holders]
      cases found : seen.find? (fun q => aliasOf q == aliasOf p) with
      | some q => rfl
      | none => exact ih (tracks.cache present found)

theorem build_agrees (paths : List String) :
    Agrees (AliasTable.build paths) (takeIn [] paths) :=
  extend_agrees tracks_empty

theorem injOn_append_of_fresh {seen : List String} {p : String}
    (distinct : Set.InjOn aliasOf {q | q ∈ seen})
    (fresh : seen.find? (fun q => aliasOf q == aliasOf p) = none) :
    Set.InjOn aliasOf {q | q ∈ seen ++ [p]} := by
  have apart : ∀ q ∈ seen, aliasOf q ≠ aliasOf p := by
    intro q member same
    have := List.find?_eq_none.mp fresh q member
    simp [same] at this
  intro a inA b inB same
  have left : a ∈ seen ∨ a = p := by simpa using inA
  have right : b ∈ seen ∨ b = p := by simpa using inB
  rcases left with ha | rfl <;> rcases right with hb | rfl
  · exact distinct ha hb same
  · exact absurd same (apart a ha)
  · exact absurd same.symm (apart b hb)
  · rfl

theorem takeIn_ok {paths : List String} :
    ∀ {seen out : List String}, takeIn seen paths = .ok out →
      Set.InjOn aliasOf {p | p ∈ seen} →
      (∀ p, p ∈ seen ∨ p ∈ paths → p ∈ out) ∧ Set.InjOn aliasOf {p | p ∈ out} := by
  induction paths with
  | nil =>
    intro seen out ok distinct
    cases ok
    exact ⟨fun p member => by simpa using member, distinct⟩
  | cons p rest ih =>
    intro seen out ok distinct
    unfold takeIn at ok
    split at ok
    · rename_i present
      obtain ⟨kept, distinct'⟩ := ih ok distinct
      refine ⟨fun q member => kept q ?_, distinct'⟩
      rcases member with old | member
      · exact .inl old
      · rcases List.mem_cons.mp member with rfl | later
        · exact .inl present
        · exact .inr later
    · rename_i absent
      split at ok
      · cases ok
      · rename_i fresh
        obtain ⟨kept, distinctOut⟩ := ih ok (injOn_append_of_fresh distinct fresh)
        refine ⟨fun q member => kept q ?_, distinctOut⟩
        rcases member with old | member
        · exact .inl (List.mem_append_left _ old)
        · rcases List.mem_cons.mp member with rfl | later
          · exact .inl (List.mem_append_right _ (List.mem_singleton_self _))
          · exact .inr later

theorem takeIn_error {paths : List String} :
    ∀ {seen : List String} {e : Failure}, takeIn seen paths = .error e →
      ∃ shared first second, e = .aliasClash shared first second := by
  induction paths with
  | nil => intro seen e failed; cases failed
  | cons p rest ih =>
    intro seen e failed
    unfold takeIn at failed
    split at failed
    · exact ih failed
    · split at failed
      · cases failed
        exact ⟨_, _, _, rfl⟩
      · exact ih failed

theorem build_ok {paths : List String} {t : AliasTable} (built : AliasTable.build paths = .ok t) :
    ∃ seen byAlias, takeIn [] paths = .ok seen ∧ Tracks t byAlias seen := by
  have agrees := build_agrees paths
  rw [built] at agrees
  rcases taken : takeIn [] paths with e | seen <;> rw [taken] at agrees
  · exact agrees.elim
  · obtain ⟨byAlias, tracks⟩ := agrees
    exact ⟨seen, byAlias, rfl, tracks⟩

theorem exists_build_ok_iff (paths : List String) :
    (∃ t, AliasTable.build paths = .ok t) ↔ ∃ seen, takeIn [] paths = .ok seen := by
  have agrees := build_agrees paths
  constructor
  · rintro ⟨t, built⟩
    obtain ⟨seen, -, taken, -⟩ := build_ok built
    exact ⟨seen, taken⟩
  · rintro ⟨seen, taken⟩
    rw [taken] at agrees
    rcases built : AliasTable.build paths with e | t <;> rw [built] at agrees
    · exact agrees.elim
    · exact ⟨t, rfl⟩

theorem build_error_iff {paths : List String} {e : Failure} :
    AliasTable.build paths = .error e ↔ takeIn [] paths = .error e := by
  have agrees := build_agrees paths
  rcases built : AliasTable.build paths with e' | t <;>
    rcases taken : takeIn [] paths with e'' | seen <;> rw [built, taken] at agrees
  · have same : e' = e'' := agrees
    simp [same]
  · exact agrees.elim
  · exact agrees.elim
  · simp

/-- No two paths a table is built from share an alias. -/
theorem aliasOf_injective_of_build {paths : List String} {t : AliasTable}
    (built : AliasTable.build paths = .ok t) : Set.InjOn aliasOf {p | p ∈ paths} := by
  obtain ⟨seen, -, taken, -⟩ := build_ok built
  obtain ⟨kept, distinct⟩ := takeIn_ok taken (by simp [Set.InjOn])
  exact distinct.mono fun p member => kept p (.inr member)

theorem build_error {paths : List String} {e : Failure} (failed : AliasTable.build paths = .error e) :
    ∃ shared first second, e = .aliasClash shared first second :=
  takeIn_error (build_error_iff.mp failed)

theorem aliasOf_ne_runtimeAlias (path : String) : aliasOf path ≠ runtimeAlias := by
  intro same
  -- read backwards, an alias starts with `bp_` and the runtime alias with `bps`
  have reversed := congrArg (fun s : String => s.toList.reverse) same
  simp [aliasOf, runtimeAlias] at reversed

end ProtoTypings.Module
