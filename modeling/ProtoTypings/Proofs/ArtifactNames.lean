import Mathlib
import ProtoTypings.Proofs.DescriptorSets

namespace ProtoTypings.Module

theorem aliasOf_eq_of_modulePath_eq {p q : String} (same : modulePath p = modulePath q) :
    aliasOf p = aliasOf q := by
  have stems : stemChars p.toList = stemChars q.toList := by
    simpa [modulePath, stem, String.append_left_inj, String.ofList_inj] using same
  simp only [aliasOf, stems]

/- Read backwards, a declarations name starts with `st.d.bp_`, a services name with
`st.d.ecivres_bp_` and the manifest's name with `nosj.`: artifact names end in `.d.ts`. -/

theorem declarationsName_ne_servicesName (p q : String) : declarationsName p ≠ servicesName q := by
  intro same
  have reversed := congrArg (fun s : String => s.toList.reverse) same
  simp [declarationsName, servicesName, modulePath] at reversed

def artifactNames (path : String) : List String :=
  [declarationsName path, servicesName path]

/-- Distinct paths of an alias table's paths have distinct artifact names: all the names of the
paths, taken together, are pairwise distinct. -/
theorem artifactNames_nodup {paths : List String} {t : AliasTable}
    (built : AliasTable.build paths = .ok t) {xs : List String} (distinct : xs.Nodup)
    (inSet : ∀ x ∈ xs, x ∈ paths) : (xs.flatMap artifactNames).Nodup := by
  rw [List.nodup_flatMap]
  refine ⟨fun x _ => by simp [artifactNames, declarationsName_ne_servicesName], ?_⟩
  refine distinct.imp_of_mem fun {x y} hx hy differ => ?_
  -- a shared name gives one module path, hence one alias, for two distinct paths
  have apart (same : modulePath x = modulePath y) : False :=
    differ (aliasOf_injective_of_build built (inSet x hx) (inSet y hy)
      (aliasOf_eq_of_modulePath_eq same))
  intro name here there
  simp only [artifactNames, List.mem_cons, List.not_mem_nil, or_false] at here there
  rcases here with rfl | rfl <;> rcases there with same | same
  · exact apart ((String.append_left_inj _).mp same)
  · exact declarationsName_ne_servicesName x y same
  · exact declarationsName_ne_servicesName y x same.symm
  · exact apart ((String.append_left_inj _).mp same)

theorem ne_manifest_of_mem_artifactNames {path name : String} (member : name ∈ artifactNames path) :
    name ≠ "manifest.json" := by
  have ends : ∃ front, name = front ++ ".d.ts" := by
    simp only [artifactNames, List.mem_cons, List.not_mem_nil, or_false] at member
    rcases member with rfl | rfl
    · exact ⟨modulePath path, rfl⟩
    · exact ⟨modulePath path ++ "_service", by rw [servicesName, String.append_assoc]; rfl⟩
  obtain ⟨front, rfl⟩ := ends
  intro same
  have reversed := congrArg (fun s : String => s.toList.reverse) same
  simp at reversed

end ProtoTypings.Module

namespace ProtoTypings.Run

open ProtoTypings.Schema
open ProtoTypings.Emit

theorem flatMap_sublist_of_forall₂ {α β γ : Type} {f : β → List γ} {g : α → List γ} :
    ∀ {xs : List α} {ys : List β}, List.Forall₂ (fun x y => (f y).Sublist (g x)) xs ys →
      (ys.flatMap f).Sublist (xs.flatMap g)
  | _, _, .nil => List.Sublist.slnil
  | _, _, .cons head tail => head.append (flatMap_sublist_of_forall₂ tail)

theorem targetOutcome_names {c : Catalog} {files : List FileDescriptor} {options : Options}
    {target : String} {outcome : FileDescriptor × List Artifact}
    (ran : targetOutcome c files options target = .ok outcome) :
    target ∈ files.map (·.name) ∧
      (outcome.2.map (·.name)).Sublist (Module.artifactNames target) := by
  obtain ⟨file, declarations, named, _, written⟩ := targetOutcome_eq_ok.mp ran
  have inSet : target ∈ files.map (·.name) := by
    have same : file.name = target := by simpa using List.find?_some named
    exact same ▸ List.mem_map_of_mem (List.mem_of_find?_eq_some named)
  refine ⟨inSet, ?_⟩
  -- with services on, the services artifact is kept only for a file that offers some
  rcases written with ⟨_, services, _, rfl⟩ | ⟨_, rfl⟩
  · by_cases offers : file.services = [] <;> simp [offers, Module.artifactNames]
  · simp [Module.artifactNames]

/-- A run over pairwise distinct requested paths writes its artifacts under pairwise distinct
names, none of them the manifest's. -/
theorem artifact_names_distinct {files : List FileDescriptor} {targets : List String}
    {options : Options} {g : Generated} (distinct : targets.Nodup)
    (ran : generate files targets options = .ok g) :
    (g.artifacts.map (·.name)).Nodup ∧ ∀ a ∈ g.artifacts, a.name ≠ "manifest.json" := by
  rw [generate_eq_outcomes files targets options] at ran
  obtain ⟨c, built, ran⟩ := bind_eq_ok.mp ran
  obtain ⟨outcomes, found, done⟩ := bind_eq_ok.mp ran
  cases done
  obtain ⟨inSet, each⟩ := (List.forall₂_and_left _ _).mp
    ((mapM_eq_ok_iff.mp found).imp fun _ _ ran => targetOutcome_names ran)
  -- every name is one of the two names of a requested path
  have names : ((outcomes.flatMap (·.2)).map (·.name)).Sublist
      (targets.flatMap Module.artifactNames) := by
    rw [List.map_flatMap]
    exact flatMap_sublist_of_forall₂ each
  refine ⟨(Module.artifactNames_nodup (catalog_build_ok built).2 distinct inSet).sublist names,
    fun a member => ?_⟩
  obtain ⟨target, _, listed⟩ :=
    List.mem_flatMap.mp (names.subset (List.mem_map_of_mem member))
  exact Module.ne_manifest_of_mem_artifactNames listed

theorem sample_artifact_names :
    ["lib/b.proto", "app/a.proto"].Nodup ∧
    ∃ g, generate [libFile, appFile] ["lib/b.proto", "app/a.proto"] {} = .ok g ∧
      (g.artifacts.map (·.name)).Nodup ∧ ∀ a ∈ g.artifacts, a.name ≠ "manifest.json" := by
  have distinct : ["lib/b.proto", "app/a.proto"].Nodup := by decide
  have ran : generate [libFile, appFile] ["lib/b.proto", "app/a.proto"] {} = .ok _ := rfl
  exact ⟨distinct, _, ran, artifact_names_distinct distinct ran⟩

end ProtoTypings.Run
