import ProtoTypings.Proofs.DeclarationLines

namespace ProtoTypings.Layout

def closingDepths (depth : Nat) : List Step → List Nat
  | [] => []
  | .line _ :: rest => closingDepths depth rest
  | .blank :: rest => closingDepths depth rest
  | .opening _ :: rest => closingDepths (depth + 1) rest
  | .closing :: rest => depth :: closingDepths (depth - 1) rest

/-- Printer steps in which every opening is followed by its own closing, with only nested steps
between the two, and no closing has no opening. -/
inductive Nested : List Step → Prop
  | nil : Nested []
  | line (text : String) {rest : List Step} : Nested rest → Nested (.line text :: rest)
  | blank {rest : List Step} : Nested rest → Nested (.blank :: rest)
  | group (header : String) {inner rest : List Step} :
      Nested inner → Nested rest → Nested (.opening header :: (inner ++ .closing :: rest))

/-- Steps that, run on a printer at any depth, bring it back to that depth and close no block
below it: every closing is taken at least one level deeper than where the run started. -/
def Returns (steps : List Step) : Prop :=
  ∀ p : Printer, (p.run steps).depth = p.depth ∧ ∀ k ∈ closingDepths p.depth steps, p.depth < k

theorem closingDepths_append (depth : Nat) (xs ys : List Step) :
    closingDepths depth (xs ++ ys) =
      closingDepths depth xs ++ closingDepths (depthAfterSteps depth xs) ys := by
  induction xs generalizing depth with
  | nil => rfl
  | cons s rest ih =>
    cases s <;> simp [closingDepths, depthAfterSteps, Step.depthAfter, ih]

theorem Nested.append {xs ys : List Step} (first : Nested xs) (second : Nested ys) :
    Nested (xs ++ ys) := by
  induction first with
  | nil => exact second
  | line text _ ih => exact .line text ih
  | blank _ ih => exact .blank ih
  | group header _ _ _ ih =>
    rw [List.cons_append, List.append_assoc, List.cons_append]
    exact .group header ‹_› ih

theorem Nested.depthAfterSteps_eq {steps : List Step} (nested : Nested steps) :
    ∀ depth, depthAfterSteps depth steps = depth := by
  induction nested with
  | nil => intro depth; rfl
  | line _ _ ih => exact ih
  | blank _ ih => exact ih
  | group _ _ _ inner rest =>
    intro depth
    show depthAfterSteps (depth + 1) _ = depth
    rw [depthAfterSteps_append, inner (depth + 1)]
    exact rest depth

theorem Nested.closingDepths_gt {steps : List Step} (nested : Nested steps) :
    ∀ depth, ∀ k ∈ closingDepths depth steps, depth < k := by
  induction nested with
  | nil => intro depth k member; cases member
  | line _ _ ih => exact ih
  | blank _ ih => exact ih
  | group _ innerNested _ inner rest =>
    intro depth k member
    -- the inner steps run one level in, the block's own closing at that level, the rest back out
    rw [closingDepths, closingDepths_append, innerNested.depthAfterSteps_eq (depth + 1),
      closingDepths, Nat.add_sub_cancel] at member
    rcases List.mem_append.mp member with deeper | (_ | ⟨_, later⟩)
    · exact Nat.lt_of_succ_lt (inner (depth + 1) k deeper)
    · exact Nat.lt_succ_self depth
    · exact rest depth k later

theorem Nested.returns {steps : List Step} (nested : Nested steps) : Returns steps := by
  intro p
  rw [run_depth]
  exact ⟨nested.depthAfterSteps_eq p.depth, nested.closingDepths_gt p.depth⟩

theorem Nested.renderSteps_group {inner : List Step} (nested : Nested inner) (depth : Nat)
    (header : String) (rest : List Step) :
    renderSteps depth (.opening header :: (inner ++ .closing :: rest)) =
      renderLine depth (header ++ " \x7b") ++ renderSteps (depth + 1) inner ++
        renderLine depth "\x7d" ++ renderSteps depth rest := by
  have opened : renderSteps depth (.opening header :: (inner ++ .closing :: rest)) =
      renderLine depth (header ++ " \x7b") ++ renderSteps (depth + 1) (inner ++ .closing :: rest) :=
    rfl
  have closed : renderSteps (depth + 1) (Step.closing :: rest) =
      renderLine depth "\x7d" ++ renderSteps depth rest := rfl
  rw [opened, renderSteps_append, nested.depthAfterSteps_eq (depth + 1), closed]
  simp only [String.append_assoc]

theorem Nested.enclose (header : String) {body : List Step} (nested : Nested body) :
    Nested (.opening header :: (body ++ [.closing])) :=
  .group header nested .nil

theorem nested_lines {α : Type} (text : α → String) :
    ∀ xs : List α, Nested (xs.map fun x => .line (text x))
  | [] => .nil
  | _ :: rest => .line _ (nested_lines text rest)

theorem nested_flatMap {α : Type} {f : α → List Step} :
    ∀ {xs : List α}, (∀ x ∈ xs, Nested (f x)) → Nested (xs.flatMap f)
  | [], _ => .nil
  | x :: _, each =>
    (each x List.mem_cons_self).append (nested_flatMap fun y member => each y (.tail x member))

end ProtoTypings.Layout

namespace ProtoTypings.Emit

open ProtoTypings.Schema
open ProtoTypings.Layout
open ProtoTypings.Typing

theorem nested_spaced {groups : List (List Step)} (each : ∀ g ∈ groups, Nested g) :
    Nested (spaced groups) :=
  nested_flatMap fun g member => .blank (each g member)

theorem nested_spaced_map {α : Type} {f : α → List Step} (each : ∀ x, Nested (f x))
    (xs : List α) : Nested (spaced (xs.map f)) :=
  nested_spaced fun _ member => by
    obtain ⟨x, _, rfl⟩ := List.mem_map.mp member
    exact each x

theorem enumBlock_nested (e : EnumDescriptor) : Nested (enumBlock e) :=
  .enclose _ (nested_lines _ e.values)

theorem oneofCaseBlock_nested (o : Oneof) : Nested (oneofCaseBlock o) :=
  .enclose _ (.line _ (nested_lines _ o.fields))

theorem classBlock_nested (dialect : Dialect) (m : MessageDescriptor)
    (typed : List (FieldDescriptor × FieldType)) (oneofs : List Oneof) :
    Nested (classBlock dialect m typed oneofs) := by
  -- each field's accessors and a blank line, the case getters, then the static members
  refine .enclose _ ((Nested.append ?_ (nested_lines _ oneofs)).append (nested_lines id _))
  exact nested_flatMap fun _ _ => (nested_lines id _).append (.blank .nil)

theorem asObjectBlock_nested (typed : List (FieldDescriptor × FieldType)) :
    Nested (asObjectBlock typed) :=
  .enclose _ (nested_lines _ typed)

section Emitters

variable {scope : Scope}

theorem yields_extensionBlocks_nested (ext : FieldDescriptor) :
    Yields (extensionBlocks scope ext) Nested :=
  yields_bind yields_true fun _ _ => yields_bind yields_true fun _ _ =>
    yields_pure (.line _ (.line _ .nil))

/- The class and the plain-object type are closed where they open, and the namespace of a message
closes around what its nested messages emit. -/
mutual
theorem messageBlocks_nested (dialect : Dialect) :
    ∀ m : MessageDescriptor, Yields (messageBlocks scope dialect m) Nested
  | ⟨name, fields, nested, enums, extensions, _, _, _⟩ => by
    rw [messageBlocks]
    refine yields_bind yields_true fun typed _ => ?_
    refine yields_bind (nestedBlocks_nested dialect nested) fun inner innerNested => ?_
    refine yields_bind (yields_mapM fun ext _ => yields_extensionBlocks_nested ext)
      fun exts extsNested => yields_pure ?_
    refine (classBlock_nested dialect _ typed _).append (.blank (.enclose _ ?_))
    -- the namespace: the plain-object type, then nested messages, enums, extensions and cases
    exact ((((asObjectBlock_nested typed).append (nested_spaced innerNested)).append
      (nested_spaced_map enumBlock_nested enums)).append (nested_spaced extsNested)).append
      (nested_spaced_map oneofCaseBlock_nested _)

theorem nestedBlocks_nested (dialect : Dialect) :
    ∀ ms : List MessageDescriptor,
      Yields (nestedBlocks scope dialect ms) fun groups => ∀ g ∈ groups, Nested g
  | [] => yields_pure fun _ member => nomatch member
  | m :: rest => by
    rw [nestedBlocks]
    split
    · exact nestedBlocks_nested dialect rest
    · refine yields_bind (messageBlocks_nested dialect m) fun here hereNested => ?_
      refine yields_bind (nestedBlocks_nested dialect rest) fun later laterNested =>
        yields_pure ?_
      rintro g (_ | ⟨_, member⟩)
      · exact hereNested
      · exact laterNested g member
end

theorem declarationBody_nested (file : FileDescriptor) :
    Yields (declarationBody scope file) Nested := by
  unfold declarationBody
  refine yields_bind (nestedBlocks_nested file.dialect file.messages) fun groups groupsNested => ?_
  refine yields_bind (yields_mapM fun ext _ => yields_extensionBlocks_nested ext)
    fun exts extsNested => yields_pure ?_
  refine nested_flatMap fun g member => (?_ : Nested g).append (.blank .nil)
  rcases List.mem_append.mp member with inFirst | inEnums
  · rcases List.mem_append.mp inFirst with inGroups | inExts
    · exact groupsNested g inGroups
    · exact extsNested g inExts
  · obtain ⟨e, _, rfl⟩ := List.mem_map.mp inEnums
    exact enumBlock_nested e

theorem methodBlock_nested (service : String) (m : MethodDescriptor) :
    Yields (methodBlock scope service m) Nested :=
  yields_bind yields_true fun _ _ => yields_bind yields_true fun _ _ =>
    yields_pure (.enclose _ (.line _ (.line _ (.line _ (.line _ (.line _ (.line _ .nil)))))))

theorem serviceBlocks_nested (package : String) (s : ServiceDescriptor) :
    Yields (serviceBlocks scope package s) Nested := by
  dsimp only [serviceBlocks]
  refine yields_bind (yields_mapM fun m _ => methodBlock_nested s.name m)
    fun classes classesNested => yields_pure ?_
  have methods : Nested classes.flatten := by
    rw [← List.flatMap_id]
    exact nested_flatMap classesNested
  exact (Nested.enclose _ (.line _ .nil)).append (.enclose _ methods)

theorem servicesBody_nested (package : String) (services : List ServiceDescriptor) :
    Yields (services.mapM (serviceBlocks scope package)) fun bodies => Nested bodies.flatten := by
  intro s bodies s' ran
  rw [← List.flatMap_id]
  exact nested_flatMap (yields_mapM (fun svc _ => serviceBlocks_nested package svc) s bodies s' ran)

end Emitters

def NestedBody (file : FileDescriptor) (text : String) : Prop :=
  ∃ imports steps, text = artifactText file imports (render steps) ∧
    Nested steps ∧ Returns steps

theorem nestedBody_render (file : FileDescriptor) (imports : List String) {steps : List Step}
    (nested : Nested steps) : NestedBody file (artifactText file imports (render steps)) :=
  ⟨imports, steps, rfl, nested, nested.returns⟩

/-- Blocks close where they open. Whatever a message (at any depth of nesting), an extension or a
service is typed against, the steps its emitter returns open and close their blocks in pairs, and,
run on a printer at any depth, leave the printer at that depth and take every closing at least
one level deeper, so a closing never saturates at the outermost level; an enum's steps do the
same. A block's closing brace is written at the indentation of its header, and the declarations
and services artifacts are their header and import lines followed by such a run printed from the
outermost level (or empty, for a file with no services). -/
theorem emitted_blocks_close {scope : Scope} {dialect : Dialect} {c : Catalog}
    {file : FileDescriptor} :
    (∀ m, Yields (messageBlocks scope dialect m) fun steps => Nested steps ∧ Returns steps) ∧
      (∀ e, Nested (enumBlock e) ∧ Returns (enumBlock e)) ∧
      (∀ ext, Yields (extensionBlocks scope ext) fun steps => Nested steps ∧ Returns steps) ∧
      (∀ package s, Yields (serviceBlocks scope package s) fun steps =>
        Nested steps ∧ Returns steps) ∧
      (∀ depth header inner rest, Nested inner →
        renderSteps depth (.opening header :: (inner ++ .closing :: rest)) =
          renderLine depth (header ++ " \x7b") ++ renderSteps (depth + 1) inner ++
            renderLine depth "\x7d" ++ renderSteps depth rest) ∧
      (∀ text, c.declarations file = .ok text → NestedBody file text) ∧
      (∀ text, c.services file = .ok text → text = "" ∨ NestedBody file text) := by
  have returning {x : Typed (List Step)} (nested : Yields x Nested) :
      Yields x fun steps => Nested steps ∧ Returns steps :=
    fun s steps s' ran => ⟨nested s steps s' ran, (nested s steps s' ran).returns⟩
  refine ⟨fun m => returning (messageBlocks_nested dialect m),
    fun e => ⟨enumBlock_nested e, (enumBlock_nested e).returns⟩,
    fun ext => returning (yields_extensionBlocks_nested ext),
    fun package s => returning (serviceBlocks_nested package s),
    fun depth header _ rest nested => nested.renderSteps_group depth header rest, ?_, ?_⟩
  · intro text built
    obtain ⟨body, referenced, typed, rfl⟩ := declarations_eq_ok.mp built
    exact nestedBody_render file _ (declarationBody_nested file {} body referenced typed)
  · intro text built
    by_cases offers : file.services = []
    · left
      simpa [Catalog.services, offers] using built.symm
    · right
      obtain ⟨bodies, referenced, typed, rfl⟩ := (services_eq_ok offers).mp built
      exact nestedBody_render file _
        (servicesBody_nested file.package file.services {} bodies referenced typed)

end ProtoTypings.Emit
