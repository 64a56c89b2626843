import Std.Data.TreeMap
import ProtoTypings.Module.Path
import ProtoTypings.Failure

namespace ProtoTypings.Module

def runtimeAlias : String := "jspb"

def aliasChar (c : Char) : Char :=
  if c.isAlphanum then c else '_'

def aliasBody : List Char → List Char
  | [] => []
  | c :: rest => if c.isDigit then '_' :: c :: rest else c :: rest

/-- The module alias of a schema path. -/
def aliasOf (path : String) : String :=
  String.ofList (aliasBody ((stemChars path.toList).map aliasChar)) ++ "_pb"

/-- A cache that holds, for each path it holds, the path's own alias. -/
def AliasCache (byPath : Std.TreeMap String String) : Prop :=
  ∀ p a, byPath[p]? = some a → a = aliasOf p

theorem aliasCache_insert {byPath : Std.TreeMap String String} (cached : AliasCache byPath)
    (path : String) : AliasCache (byPath.insert path (aliasOf path)) := by
  intro p a found
  rw [Std.TreeMap.getElem?_insert] at found
  split at found
  · rename_i same
    rw [Std.LawfulEqCmp.compare_eq_iff_eq.mp same] at found
    exact (Option.some.inj found).symm
  · exact cached p a found

structure AliasTable where
  byPath : Std.TreeMap String String
  cached : AliasCache byPath

def AliasTable.empty : AliasTable :=
  ⟨∅, fun _ _ found => by simp at found⟩

def AliasTable.cache (t : AliasTable) (path : String) : AliasTable :=
  ⟨t.byPath.insert path (aliasOf path), aliasCache_insert t.cached path⟩

/-- Adds paths in order, with the first path met for each alias cached so far: a path already
cached is skipped, a path whose alias a cached path has is a clash naming that path first. -/
def AliasTable.extend (t : AliasTable) (byAlias : Std.TreeMap String String) :
    List String → Except Failure AliasTable
  | [] => .ok t
  | p :: rest =>
    if p ∈ t.byPath then t.extend byAlias rest
    else
      match byAlias[aliasOf p]? with
      | some first => .error (.aliasClash (aliasOf p) first p)
      | none => (t.cache p).extend (byAlias.insert (aliasOf p) p) rest

def AliasTable.build (paths : List String) : Except Failure AliasTable :=
  AliasTable.empty.extend ∅ paths

def AliasTable.aliasFor (t : AliasTable) (path : String) : String :=
  t.byPath[path]?.getD (aliasOf path)

def AliasTable.size (t : AliasTable) : Nat :=
  t.byPath.size

@[simp] theorem AliasTable.aliasFor_eq (t : AliasTable) (path : String) :
    t.aliasFor path = aliasOf path := by
  unfold AliasTable.aliasFor
  cases found : t.byPath[path]? with
  | none => rfl
  | some a => exact t.cached path a found

end ProtoTypings.Module
