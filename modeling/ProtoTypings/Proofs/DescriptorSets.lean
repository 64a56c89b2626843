import Mathlib
import ProtoTypings.Proofs.Simulation
import ProtoTypings.Proofs.Generation

namespace ProtoTypings.Module

theorem takeIn_ok_of_injOn {paths : List String} :
    ∀ {seen : List String}, Set.InjOn aliasOf {p | p ∈ seen ∨ p ∈ paths} →
      ∃ out, takeIn seen paths = .ok out := by
  induction paths with
  | nil => intro seen _; exact ⟨seen, rfl⟩
  | cons p rest ih =>
    intro seen distinct
    unfold takeIn
    split
    · exact ih (distinct.mono fun q member => by
        rcases member with old | later
        · exact .inl old
        · exact .inr (List.mem_cons_of_mem p later))
    · rename_i absent
      -- an earlier path with the alias of `p` would be `p` itself, which is not among them
      have fresh : seen.find? (fun q => aliasOf q == aliasOf p) = none := by
        refine List.find?_eq_none.mpr fun q member same => absent ?_
        have equal : q = p :=
          distinct (.inl member) (.inr List.mem_cons_self) (by simpa using same)
        exact equal ▸ member
      rw [fresh]
      exact ih (distinct.mono fun q member => by
        rcases member with old | later
        · rcases List.mem_append.mp old with old | added
          · exact .inl old
          · exact .inr (List.mem_singleton.mp added ▸ List.mem_cons_self)
        · exact .inr (List.mem_cons_of_mem p later))

/-- A table is built exactly when no two distinct paths share an alias. -/
theorem build_ok_iff (paths : List String) :
    (∃ t, AliasTable.build paths = .ok t) ↔ Set.InjOn aliasOf {p | p ∈ paths} := by
  constructor
  · rintro ⟨t, built⟩
    exact aliasOf_injective_of_build built
  · intro distinct
    obtain ⟨out, taken⟩ := @takeIn_ok_of_injOn paths [] (distinct.mono fun p member => by
      rcases member with none | listed
      · exact absurd none List.not_mem_nil
      · exact listed)
    exact (exists_build_ok_iff paths).mpr ⟨out, taken⟩

end ProtoTypings.Module

namespace ProtoTypings

open ProtoTypings.Schema

theorem findSome?_eq_find?_bind {α β : Type} (g : α → Option β) :
    ∀ l : List α, l.findSome? g = (l.find? fun x => (g x).isSome).bind g
  | [] => rfl
  | x :: rest => by
    rcases hit : g x with _ | y
    · simp [hit, findSome?_eq_find?_bind g rest]
    · simp [hit]

theorem get?_append (first later : List FileDescriptor) (name : String) :
    (SymbolTable.build (first ++ later)).get? name =
      ((SymbolTable.build first).get? name).or ((SymbolTable.build later).get? name) := by
  simp [SymbolTable.build, SymbolTable.get?, List.flatMap_append, List.find?_append]

section Perm

variable {files files' : List FileDescriptor}

theorem find?_name_perm (perm : files.Perm files') (distinct : (files.map (·.name)).Nodup)
    (target : String) :
    files'.find? (·.name == target) = files.find? (·.name == target) := by
  refine (List.find?_eq_find?_of_perm perm ?_).symm
  rintro x ⟨inX, named⟩ y ⟨inY, named'⟩
  exact List.inj_on_of_nodup_map distinct inX inY (by simp_all)

theorem get?_perm (perm : files.Perm files') (distinct : (files.map (·.name)).Nodup)
    (oneFile : ∀ s ∈ (SymbolTable.build files).symbols, ∀ s' ∈ (SymbolTable.build files).symbols,
      s.fullName = s'.fullName → s.file = s'.file) (name : String) :
    (SymbolTable.build files').get? name = (SymbolTable.build files).get? name := by
  simp only [SymbolTable.get?, SymbolTable.build, List.find?_flatMap, findSome?_eq_find?_bind]
  -- at most one file of the set declares the name
  have single : {f | f ∈ files ∧
      (((fileSymbols f).find? fun s => s.fullName == stripDot name).isSome) = true}.Subsingleton := by
    rintro x ⟨inX, declaresX⟩ y ⟨inY, declaresY⟩
    obtain ⟨s, hs⟩ := Option.isSome_iff_exists.mp declaresX
    obtain ⟨s', hs'⟩ := Option.isSome_iff_exists.mp declaresY
    have sameName : s.fullName = s'.fullName := by
      have named := List.find?_some hs
      have named' := List.find?_some hs'
      simp only [beq_iff_eq] at named named'
      rw [named, named']
    have sameFile := oneFile s (List.mem_flatMap.mpr ⟨x, inX, List.mem_of_find?_eq_some hs⟩)
      s' (List.mem_flatMap.mpr ⟨y, inY, List.mem_of_find?_eq_some hs'⟩) sameName
    rw [fileSymbols_file x s (List.mem_of_find?_eq_some hs),
      fileSymbols_file y s' (List.mem_of_find?_eq_some hs')] at sameFile
    exact List.inj_on_of_nodup_map distinct inX inY sameFile
  rw [List.find?_eq_find?_of_perm perm single]

end Perm

end ProtoTypings

namespace ProtoTypings.Run

open ProtoTypings.Schema
open ProtoTypings.Emit

theorem catalog_build_ok_iff (files : List FileDescriptor) :
    (∃ c, Catalog.build files = .ok c) ↔
      ∃ t, Module.AliasTable.build (files.map (·.name)) = .ok t := by
  constructor
  · rintro ⟨c, built⟩
    exact ⟨c.aliases, (catalog_build_ok built).2⟩
  · rintro ⟨t, built⟩
    exact ⟨⟨ExportMap.build files, t⟩, by simp [Catalog.build, built, Bind.bind, Except.bind,
      Pure.pure, Except.pure]⟩

theorem catalog_build_perm {files files' : List FileDescriptor} (perm : files.Perm files') :
    (∃ c', Catalog.build files' = .ok c') ↔ ∃ c, Catalog.build files = .ok c := by
  have same : {p | p ∈ files'.map (·.name)} = {p | p ∈ files.map (·.name)} :=
    Set.ext fun p => (perm.map (·.name)).mem_iff.symm
  rw [catalog_build_ok_iff, catalog_build_ok_iff, Module.build_ok_iff, Module.build_ok_iff, same]

theorem catalog_build_of_append {first later : List FileDescriptor} {c' : Catalog}
    (built : Catalog.build (first ++ later) = .ok c') : ∃ c, Catalog.build first = .ok c := by
  -- the paths of the set alone are among those of the whole, where aliases are apart
  have apart := Module.aliasOf_injective_of_build (catalog_build_ok built).2
  refine (catalog_build_ok_iff first).mpr ((Module.build_ok_iff _).mpr (apart.mono ?_))
  intro p member
  simp only [Set.mem_ofPred_eq, List.map_append, List.mem_append] at member ⊢
  exact .inl member

theorem targetOutcome_eq_of_lookups {c c' : Catalog} {files files' : List FileDescriptor}
    (found : ∀ target, files'.find? (·.name == target) = files.find? (·.name == target))
    (same : ∀ name, c'.symbols.get? name = c.symbols.get? name) (options : Options) :
    targetOutcome c' files' options = targetOutcome c files options := by
  funext target
  simp only [targetOutcome, found, declarations_eq_of_lookups same, services_eq_of_lookups same]

theorem targetOutcome_of_extends {c c' : Catalog} {files files' : List FileDescriptor}
    (found : ∀ target file, files.find? (·.name == target) = some file →
      files'.find? (·.name == target) = some file)
    (lookups : ∀ name sym, c.symbols.get? name = some sym → c'.symbols.get? name = some sym)
    {options : Options} {target : String} {outcome : FileDescriptor × List Artifact}
    (ran : targetOutcome c files options target = .ok outcome) :
    targetOutcome c' files' options target = .ok outcome := by
  obtain ⟨file, declarations, named, declared, written⟩ := targetOutcome_eq_ok.mp ran
  refine targetOutcome_eq_ok.mpr ⟨file, declarations, found target file named,
    declarations_of_extends lookups declared, ?_⟩
  rcases written with ⟨on, services, served, done⟩ | off
  · exact .inl ⟨on, services, services_of_extends lookups served, done⟩
  · exact .inr off

theorem generate_eq_of_outcomes {files files' : List FileDescriptor} {c c' : Catalog}
    (built : Catalog.build files = .ok c) (built' : Catalog.build files' = .ok c')
    {options : Options} (same : targetOutcome c' files' options = targetOutcome c files options)
    (targets : List String) : generate files' targets options = generate files targets options := by
  rw [generate_eq_outcomes files' targets options, generate_eq_outcomes files targets options,
    built, built']
  simp only [Bind.bind, Except.bind, same]

theorem generate_of_outcomes {files files' : List FileDescriptor} {c c' : Catalog}
    (built : Catalog.build files = .ok c) (built' : Catalog.build files' = .ok c')
    {options : Options}
    (carried : ∀ target outcome, targetOutcome c files options target = .ok outcome →
      targetOutcome c' files' options target = .ok outcome)
    {targets : List String} {g : Generated} (ran : generate files targets options = .ok g) :
    generate files' targets options = .ok g := by
  rw [generate_eq_outcomes files targets options, built] at ran
  rw [generate_eq_outcomes files' targets options, built']
  simp only [Bind.bind, Except.bind] at ran ⊢
  rcases outcomes : targets.mapM (targetOutcome c files options) with e | outs <;>
    rw [outcomes] at ran
  · cases ran
  rw [mapM_eq_ok_iff.mpr ((mapM_eq_ok_iff.mp outcomes).imp carried)]
  exact ran

/-- Reordering a descriptor set whose paths are distinct and whose full names are each declared by
one file only changes nothing: the catalog of the reordered set is built exactly when that of the
set is, and then every run over it is the same run (the same artifacts and counts, or the same
failure), and both artifacts of every file are written alike. -/
theorem generate_perm {files files' : List FileDescriptor} (perm : files.Perm files')
    (distinct : (files.map (·.name)).Nodup)
    (oneFile : ∀ s ∈ (SymbolTable.build files).symbols, ∀ s' ∈ (SymbolTable.build files).symbols,
      s.fullName = s'.fullName → s.file = s'.file) :
    ((∃ c', Catalog.build files' = .ok c') ↔ ∃ c, Catalog.build files = .ok c) ∧
    ∀ c c', Catalog.build files = .ok c → Catalog.build files' = .ok c' →
      (∀ targets options, generate files' targets options = generate files targets options) ∧
      ∀ file, c'.declarations file = c.declarations file ∧ c'.services file = c.services file := by
  refine ⟨catalog_build_perm perm, fun c c' built built' => ?_⟩
  have same : ∀ name, c'.symbols.get? name = c.symbols.get? name := by
    intro name
    rw [(catalog_build_ok built).1, (catalog_build_ok built').1, ExportMap.get?_build,
      ExportMap.get?_build]
    exact get?_perm perm distinct oneFile name
  refine ⟨fun targets options => ?_, fun file =>
    ⟨declarations_eq_of_lookups same file, services_eq_of_lookups same file⟩⟩
  exact generate_eq_of_outcomes built built'
    (targetOutcome_eq_of_lookups (find?_name_perm perm distinct) same options) targets

theorem swapped_set_same_runs :
    [libFile, appFile].Perm [appFile, libFile] ∧
    ([libFile, appFile].map (·.name)).Nodup ∧
    (∀ s ∈ (SymbolTable.build [libFile, appFile]).symbols,
      ∀ s' ∈ (SymbolTable.build [libFile, appFile]).symbols,
        s.fullName = s'.fullName → s.file = s'.file) ∧
    ((∃ c', Catalog.build [appFile, libFile] = .ok c') ↔
      ∃ c, Catalog.build [libFile, appFile] = .ok c) ∧
    ∀ c c', Catalog.build [libFile, appFile] = .ok c → Catalog.build [appFile, libFile] = .ok c' →
      (∀ targets options, generate [appFile, libFile] targets options =
        generate [libFile, appFile] targets options) ∧
      ∀ file, c'.declarations file = c.declarations file ∧ c'.services file = c.services file := by
  have perm : [libFile, appFile].Perm [appFile, libFile] := List.Perm.swap appFile libFile []
  have distinct : ([libFile, appFile].map (·.name)).Nodup := by decide
  have oneFile : ∀ s ∈ (SymbolTable.build [libFile, appFile]).symbols,
      ∀ s' ∈ (SymbolTable.build [libFile, appFile]).symbols,
        s.fullName = s'.fullName → s.file = s'.file := by decide
  exact ⟨perm, distinct, oneFile, generate_perm perm distinct oneFile⟩

/-- Files added after a descriptor set whose catalog, with them, is built change nothing that
succeeds over the set: the catalog of the set alone is built, and the declarations and services
it writes, and the runs that succeed over the set, are written alike with the added files. -/
theorem generate_append {first later : List FileDescriptor} {c' : Catalog}
    (built' : Catalog.build (first ++ later) = .ok c') :
    ∃ c, Catalog.build first = .ok c ∧
      (∀ file text, c.declarations file = .ok text → c'.declarations file = .ok text) ∧
      (∀ file text, c.services file = .ok text → c'.services file = .ok text) ∧
      ∀ targets options g, generate first targets options = .ok g →
        generate (first ++ later) targets options = .ok g := by
  obtain ⟨c, built⟩ := catalog_build_of_append built'
  have lookups : ∀ name sym, c.symbols.get? name = some sym → c'.symbols.get? name = some sym := by
    intro name sym hit
    rw [(catalog_build_ok built).1, ExportMap.get?_build] at hit
    rw [(catalog_build_ok built').1, ExportMap.get?_build, get?_append, hit, Option.some_or]
  have found : ∀ target file, first.find? (·.name == target) = some file →
      (first ++ later).find? (·.name == target) = some file := by
    intro target file hit
    rw [List.find?_append, hit, Option.some_or]
  refine ⟨c, built, fun file text => declarations_of_extends lookups,
    fun file text => services_of_extends lookups, fun targets options g ran => ?_⟩
  exact generate_of_outcomes built built'
    (fun target outcome => targetOutcome_of_extends found lookups) ran

theorem appended_set_same_runs :
    Catalog.build ([libFile] ++ [appFile]) = .ok sampleCatalog ∧
    ∃ c, Catalog.build [libFile] = .ok c ∧
      (∀ file text, c.declarations file = .ok text → sampleCatalog.declarations file = .ok text) ∧
      (∀ file text, c.services file = .ok text → sampleCatalog.services file = .ok text) ∧
      ∀ targets options g, generate [libFile] targets options = .ok g →
        generate ([libFile] ++ [appFile]) targets options = .ok g :=
  ⟨rfl, generate_append rfl⟩

end ProtoTypings.Run
