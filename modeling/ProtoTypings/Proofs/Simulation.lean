import ProtoTypings.Proofs.ImportSection

namespace ProtoTypings.Typing

open ProtoTypings.Schema

/-- A relation between typing steps of one result type that holds of every step and itself and
that sequencing keeps: related first steps followed by related rests are related. -/
structure Simulation where
  Rel : {α : Type} → Typed α → Typed α → Prop
  refl : ∀ {α : Type} (t : Typed α), Rel t t
  bind : ∀ {α β : Type} {t t' : Typed α} {f f' : α → Typed β},
    Rel t t' → (∀ a, Rel (f a) (f' a)) → Rel (t >>= f) (t' >>= f')

theorem Simulation.mapM (sim : Simulation) {α β : Type} {f f' : α → Typed β} :
    ∀ {xs : List α}, (∀ x ∈ xs, sim.Rel (f x) (f' x)) → sim.Rel (xs.mapM f) (xs.mapM f')
  | [], _ => sim.refl _
  | x :: rest, each => by
    rw [List.mapM_cons, List.mapM_cons]
    apply sim.bind (each x List.mem_cons_self)
    intro _
    apply sim.bind (sim.mapM fun y member => each y (List.mem_cons_of_mem x member))
    exact fun _ => sim.refl _

def Simulation.equal : Simulation where
  Rel t t' := t = t'
  refl _ := rfl
  bind same next := by rw [same, funext next]

@[simp] theorem Simulation.equal_rel {α : Type} {t t' : Typed α} :
    Simulation.equal.Rel t t' ↔ t = t' := Iff.rfl

def Simulation.succeeds : Simulation where
  Rel t t' := ∀ s a s', (t.run).run s = (.ok a, s') → (t'.run).run s = (.ok a, s')
  refl _ _ _ _ ran := ran
  bind {_ _ t t' f f'} first next := by
    intro s b s'' ran
    rw [run_bind] at ran ⊢
    rcases head : (t.run).run s with ⟨_ | a, s'⟩ <;> rw [head] at ran
    · cases ran
    · rw [first s a s' head]
      exact next a s' b s'' ran

structure Scope.Simulates (sim : Simulation) (scope scope' : Scope) : Prop where
  file : scope.file = scope'.file
  inline : scope.inline = scope'.inline
  resolve : ∀ name, sim.Rel (scope.resolve name) (scope'.resolve name)

section Simulates

variable {sim : Simulation} {scope scope' : Scope}

theorem typeRef_sim (h : scope.Simulates sim scope') (name : String) :
    sim.Rel (scope.typeRef name) (scope'.typeRef name) := by
  unfold Scope.typeRef
  simp only [Module.AliasTable.aliasFor_eq, ← h.file, ← h.inline]
  exact sim.bind (h.resolve name) fun _ => sim.refl _

theorem element_sim (h : scope.Simulates sim scope') (v : ValueRef) :
    sim.Rel (scope.element v) (scope'.element v) := by
  unfold Scope.element
  split
  · exact sim.bind (typeRef_sim h _) fun _ => sim.refl _
  · exact sim.bind (typeRef_sim h _) fun _ => sim.refl _
  · exact sim.bind (typeRef_sim h _) fun _ => sim.refl _
  · exact sim.refl _
  · exact sim.refl _

theorem fieldType_sim (h : scope.Simulates sim scope') (f : FieldDescriptor) :
    sim.Rel (scope.fieldType f) (scope'.fieldType f) := by
  -- the shape of a field that is not a map, reached from both branches of the map test
  have plain : sim.Rel (do
      let element ← scope.element (.ofField f)
      pure (⟨element, plainShape f⟩ : FieldType)) (do
      let element ← scope'.element (.ofField f)
      pure (⟨element, plainShape f⟩ : FieldType)) :=
    sim.bind (element_sim h _) fun _ => sim.refl _
  unfold Scope.fieldType
  split
  · refine sim.bind (h.resolve _) fun sym => ?_
    split
    · apply sim.bind (element_sim h _)
      exact fun _ => sim.bind (element_sim h _) fun _ => sim.refl _
    · exact plain
  · exact plain

end Simulates

end ProtoTypings.Typing

namespace ProtoTypings.Emit

open ProtoTypings.Schema
open ProtoTypings.Typing

section Emitters

variable {sim : Simulation} {scope scope' : Scope}

theorem typeFields_sim (h : scope.Simulates sim scope') (fields : List FieldDescriptor) :
    sim.Rel (typeFields scope fields) (typeFields scope' fields) :=
  sim.mapM fun f _ => sim.bind (fieldType_sim h f) fun _ => sim.refl _

theorem extensionBlocks_sim (h : scope.Simulates sim scope') (ext : FieldDescriptor) :
    sim.Rel (extensionBlocks scope ext) (extensionBlocks scope' ext) := by
  apply sim.bind (typeRef_sim h _)
  intro _
  exact sim.bind (fieldType_sim h _) fun _ => sim.refl _

mutual
theorem messageBlocks_sim (h : scope.Simulates sim scope') (dialect : Dialect) :
    ∀ m : MessageDescriptor,
      sim.Rel (messageBlocks scope dialect m) (messageBlocks scope' dialect m)
  | ⟨_, fields, nested, _, extensions, _, _, _⟩ => by
    rw [messageBlocks, messageBlocks]
    apply sim.bind (typeFields_sim h fields)
    intro _
    apply sim.bind (nestedBlocks_sim h dialect nested)
    intro _
    apply sim.bind (sim.mapM fun ext _ => extensionBlocks_sim h ext)
    exact fun _ => sim.refl _

theorem nestedBlocks_sim (h : scope.Simulates sim scope') (dialect : Dialect) :
    ∀ ms : List MessageDescriptor,
      sim.Rel (nestedBlocks scope dialect ms) (nestedBlocks scope' dialect ms)
  | [] => sim.refl _
  | m :: rest => by
    rw [nestedBlocks, nestedBlocks]
    split
    · exact nestedBlocks_sim h dialect rest
    · apply sim.bind (messageBlocks_sim h dialect m)
      intro _
      exact sim.bind (nestedBlocks_sim h dialect rest) fun _ => sim.refl _
end

theorem declarationBody_sim (h : scope.Simulates sim scope') (file : FileDescriptor) :
    sim.Rel (declarationBody scope file) (declarationBody scope' file) := by
  apply sim.bind (nestedBlocks_sim h _ _)
  intro _
  exact sim.bind (sim.mapM fun ext _ => extensionBlocks_sim h ext) fun _ => sim.refl _

theorem methodBlock_sim (h : scope.Simulates sim scope') (service : String)
    (m : MethodDescriptor) : sim.Rel (methodBlock scope service m) (methodBlock scope' service m) := by
  apply sim.bind (typeRef_sim h _)
  intro _
  exact sim.bind (typeRef_sim h _) fun _ => sim.refl _

theorem serviceBodies_sim (h : scope.Simulates sim scope') (file : FileDescriptor) :
    sim.Rel (file.services.mapM (serviceBlocks scope file.package))
      (file.services.mapM (serviceBlocks scope' file.package)) :=
  sim.mapM fun s _ =>
    sim.bind (sim.mapM fun m _ => methodBlock_sim h s.name m) fun _ => sim.refl _

end Emitters

section Catalogs

variable {c c' : Catalog}

theorem scopes_equal (same : ∀ name, c.symbols.get? name = c'.symbols.get? name)
    (file : FileDescriptor) (inline : Bool) :
    (c.scope file inline).Simulates .equal (c'.scope file inline) :=
  ⟨rfl, rfl, fun name => by simp [Scope.resolve, ExportMap.resolve, Catalog.scope, same name]⟩

theorem declarations_eq_of_lookups (same : ∀ name, c.symbols.get? name = c'.symbols.get? name)
    (file : FileDescriptor) : c.declarations file = c'.declarations file := by
  have typed := Simulation.equal_rel.mp (declarationBody_sim (scopes_equal same file true) file)
  simp only [Catalog.declarations, typed, dependencyImports_eq_map]

theorem services_eq_of_lookups (same : ∀ name, c.symbols.get? name = c'.symbols.get? name)
    (file : FileDescriptor) : c.services file = c'.services file := by
  have typed := Simulation.equal_rel.mp (serviceBodies_sim (scopes_equal same file false) file)
  simp only [Catalog.services, typed, Module.AliasTable.aliasFor_eq, dependencyImports_eq_map]

theorem resolve_succeeds (found : ∀ name sym, c.symbols.get? name = some sym →
      c'.symbols.get? name = some sym) (file : FileDescriptor) (inline : Bool) :
    (c.scope file inline).Simulates .succeeds (c'.scope file inline) := by
  refine ⟨rfl, rfl, fun name s sym s' ran => ?_⟩
  simp only [Scope.resolve, ExportMap.resolve, Catalog.scope] at ran ⊢
  rcases hit : c.symbols.get? name with _ | hitSym <;> rw [hit] at ran
  · cases ran
  · rw [found name hitSym hit]
    exact ran

/-- Declarations written under a catalog are written alike under one whose table finds at least
the symbols the first finds. -/
theorem declarations_of_extends (found : ∀ name sym, c.symbols.get? name = some sym →
      c'.symbols.get? name = some sym) {file : FileDescriptor} {text : String}
    (written : c.declarations file = .ok text) : c'.declarations file = .ok text := by
  obtain ⟨body, referenced, typed, layout⟩ := declarations_eq_ok.mp written
  have typed' := declarationBody_sim (resolve_succeeds found file true) file {} body referenced typed
  -- the two alias tables give every file the same alias, so the import lines agree
  refine declarations_eq_ok.mpr ⟨body, referenced, typed', ?_⟩
  rw [layout, dependencyImports_eq_map, dependencyImports_eq_map]

theorem services_of_extends (found : ∀ name sym, c.symbols.get? name = some sym →
      c'.symbols.get? name = some sym) {file : FileDescriptor} {text : String}
    (written : c.services file = .ok text) : c'.services file = .ok text := by
  by_cases offers : file.services = []
  · simpa [Catalog.services, offers] using written
  · obtain ⟨bodies, referenced, typed, layout⟩ := (services_eq_ok offers).mp written
    have typed' := serviceBodies_sim (resolve_succeeds found file false) file {} bodies referenced
      typed
    refine (services_eq_ok offers).mpr ⟨bodies, referenced, typed', ?_⟩
    rw [layout, dependencyImports_eq_map, dependencyImports_eq_map]

end Catalogs

end ProtoTypings.Emit
