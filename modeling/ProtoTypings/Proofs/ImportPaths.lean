import Mathlib.Data.List.Basic
import ProtoTypings.Module.Path

namespace ProtoTypings.Module

def segments (path : String) : List (List Char) :=
  path.toList.splitOn '/'

def PlainSegment (s : List Char) : Prop :=
  s ≠ [] ∧ s ≠ ['.'] ∧ s ≠ ['.', '.']

instance : DecidablePred PlainSegment :=
  fun s => inferInstanceAs (Decidable (s ≠ [] ∧ s ≠ ['.'] ∧ s ≠ ['.', '.']))

def PlainPath (path : String) : Prop :=
  ∀ s ∈ segments path, PlainSegment s

instance : DecidablePred PlainPath :=
  fun path => inferInstanceAs (Decidable (∀ s ∈ segments path, PlainSegment s))

def directoryOf (path : String) : List (List Char) :=
  (segments path).dropLast

def pushSegment (kept : List (List Char)) (s : List Char) : List (List Char) :=
  if s = ['.'] then kept else if s = ['.', '.'] then kept.drop 1 else s :: kept

/-- Segments normalised from the first to the last. -/
def normalize (ss : List (List Char)) : List (List Char) :=
  (ss.foldl pushSegment []).reverse

/-- Where a relative reference leads from a directory, as normalised segments below the root. -/
def resolveFrom (dir : List (List Char)) (reference : String) : List (List Char) :=
  normalize (dir ++ segments reference)

def joinSegments (init : List (List Char)) : List Char :=
  init.flatMap (· ++ ['/'])

theorem joinSegments_cons_append (s : List Char) (others : List (List Char)) (rest : List Char) :
    joinSegments (s :: others) ++ rest = s ++ '/' :: (joinSegments others ++ rest) := by
  simp [joinSegments]

theorem splitOn_joinSegments {init : List (List Char)} (free : ∀ s ∈ init, '/' ∉ s)
    (rest : List Char) : (joinSegments init ++ rest).splitOn '/' = init ++ rest.splitOn '/' := by
  induction init with
  | nil => rfl
  | cons s others ih =>
    rw [joinSegments_cons_append, List.splitOn_append_cons_self_of_not_mem (free s List.mem_cons_self),
      ih fun t member => free t (List.mem_cons_of_mem s member), List.cons_append]

theorem exists_joinSegments (cs : List Char) :
    ∃ init last, cs = joinSegments init ++ last ∧ (∀ s ∈ init, '/' ∉ s) ∧ '/' ∉ last := by
  induction cs with
  | nil => exact ⟨[], [], rfl, by simp, by simp⟩
  | cons c rest ih =>
    obtain ⟨init, last, rfl, free, lastFree⟩ := ih
    by_cases sep : c = '/'
    · subst sep
      exact ⟨[] :: init, last, by simp [joinSegments], by simpa using free, lastFree⟩
    · cases init with
      | nil => exact ⟨[], c :: last, by simp [joinSegments], by simp, by simp [Ne.symm sep, lastFree]⟩
      | cons s others =>
        refine ⟨(c :: s) :: others, last, by simp [joinSegments], ?_, lastFree⟩
        simp only [List.mem_cons, forall_eq_or_imp] at free ⊢
        exact ⟨by simp [Ne.symm sep, free.1], free.2⟩

theorem segments_of_joinSegments {path : String} {init : List (List Char)} {last : List Char}
    (split : path.toList = joinSegments init ++ last) (free : ∀ s ∈ init, '/' ∉ s)
    (lastFree : '/' ∉ last) : segments path = init ++ [last] := by
  rw [segments, split, splitOn_joinSegments free, List.splitOn_eq_singleton lastFree]

theorem length_splitOn (cs : List Char) : (cs.splitOn '/').length = cs.count '/' + 1 := by
  induction cs with
  | nil => rfl
  | cons c rest ih =>
    rw [List.splitOn_cons_eq_if_modifyHead]
    by_cases sep : c = '/'
    · simp [sep, ih]
    · simp [sep, ih]

theorem length_directoryOf (path : String) : (directoryOf path).length = depth path := by
  rw [directoryOf, List.length_dropLast, segments, length_splitOn, depth, Nat.add_sub_cancel]

theorem stemChars_sep (x t : List Char) : stemChars (x ++ '/' :: t) = x ++ '/' :: stemChars t := by
  have noSep : '/' ∉ schemaExtension := by decide
  have suffixIff : schemaExtension <:+ x ++ '/' :: t ↔ schemaExtension <:+ t := by
    constructor
    · intro suffix
      by_cases long : schemaExtension.length ≤ t.length
      · exact List.suffix_of_suffix_length_le suffix
          ((List.suffix_cons '/' t).trans (List.suffix_append x ('/' :: t))) long
      · -- a shorter rest would put the `/` inside the extension
        have inside : '/' :: t <:+ schemaExtension :=
          List.suffix_of_suffix_length_le (List.suffix_append x ('/' :: t)) suffix
            (by simp only [List.length_cons]; omega)
        exact absurd (inside.subset List.mem_cons_self) noSep
    · intro suffix
      exact suffix.trans ((List.suffix_cons '/' t).trans (List.suffix_append x ('/' :: t)))
  have same : schemaExtension.isSuffixOf (x ++ '/' :: t) = schemaExtension.isSuffixOf t := by
    rw [Bool.eq_iff_iff, List.isSuffixOf_iff_suffix, List.isSuffixOf_iff_suffix]
    exact suffixIff
  unfold stemChars
  rw [same]
  split
  · rename_i suffix
    have long : schemaExtension.length ≤ t.length :=
      (List.isSuffixOf_iff_suffix.mp suffix).length_le
    have count : (x ++ '/' :: t).length - schemaExtension.length =
        x.length + (t.length - schemaExtension.length + 1) := by
      simp only [List.length_append, List.length_cons]
      omega
    rw [count, List.take_length_add_append, List.take_succ_cons]
  · rfl

theorem stemChars_joinSegments (init : List (List Char)) (last : List Char) :
    stemChars (joinSegments init ++ last) = joinSegments init ++ stemChars last := by
  induction init with
  | nil => rfl
  | cons s others ih =>
    rw [joinSegments_cons_append, stemChars_sep, ih, joinSegments_cons_append]

theorem segments_stem_append (path ext : String) (extFree : '/' ∉ ext.toList) :
    ∃ init last, segments path = init ++ [last] ∧
      segments (stem path ++ ext) = init ++ [stemChars last ++ ext.toList] := by
  obtain ⟨init, last, split, free, lastFree⟩ := exists_joinSegments path.toList
  refine ⟨init, last, segments_of_joinSegments split free lastFree, ?_⟩
  have kept : stemChars last <+: last := by
    unfold stemChars
    split
    · exact List.take_prefix _ _
    · exact List.prefix_refl _
  have chars : (stem path ++ ext).toList = joinSegments init ++ (stemChars last ++ ext.toList) := by
    rw [stem, String.toList_append, String.toList_ofList, split, stemChars_joinSegments,
      List.append_assoc]
  refine segments_of_joinSegments chars free ?_
  rw [List.mem_append, not_or]
  exact ⟨fun inside => lastFree (kept.subset inside), extFree⟩

theorem directoryOf_stem_append (path ext : String) (extFree : '/' ∉ ext.toList) :
    directoryOf (stem path ++ ext) = (segments path).dropLast := by
  obtain ⟨init, last, before, after⟩ := segments_stem_append path ext extFree
  rw [directoryOf, after, before, List.dropLast_concat, List.dropLast_concat]

/-- An artifact named by the module path of a schema file and a suffix without a slash lies in the
directory of the file. -/
theorem directoryOf_modulePath_append (path suffix : String) (free : '/' ∉ suffix.toList) :
    directoryOf (modulePath path ++ suffix) = (segments path).dropLast := by
  rw [modulePath, String.append_assoc]
  refine directoryOf_stem_append path _ ?_
  rw [String.toList_append, List.mem_append, not_or]
  exact ⟨by decide, free⟩

theorem modulePath_segments {path : String} (plain : PlainPath path) :
    ∀ s ∈ segments (modulePath path), s ≠ ['.'] ∧ s ≠ ['.', '.'] := by
  obtain ⟨init, last, before, after⟩ := segments_stem_append path "_pb" (by decide)
  intro s member
  rw [modulePath, after, List.mem_append, List.mem_singleton] at member
  rcases member with early | rfl
  · have plainSeg := plain s (by rw [before]; exact List.mem_append_left _ early)
    exact ⟨plainSeg.2.1, plainSeg.2.2⟩
  · -- the last segment ends in `b`, never in `.`
    constructor <;> intro same <;> have ends := congrArg List.getLast? same <;> simp at ends

theorem toList_climb (n : Nat) :
    (String.join (List.replicate n "../")).toList = joinSegments (List.replicate n ['.', '.']) := by
  induction n with
  | zero => rfl
  | succ k ih =>
    rw [List.replicate_succ, String.join_cons, String.toList_append, ih]
    rfl

theorem segments_rootPrefix_append (path target : String) :
    segments (rootPrefix path ++ target) =
      (if depth path = 0 then [['.']] else List.replicate (depth path) ['.', '.']) ++
        segments target := by
  unfold rootPrefix segments
  split
  · have chars : ("./" ++ target).toList = ['.'] ++ '/' :: target.toList := by simp
    rw [chars, List.splitOn_append_cons_self_of_not_mem (by decide)]
    rfl
  · rw [String.toList_append, toList_climb, splitOn_joinSegments (by simp [List.mem_replicate])]

theorem foldl_pushSegment_plain {xs : List (List Char)} (plain : ∀ s ∈ xs, s ≠ ['.'] ∧ s ≠ ['.', '.'])
    (kept : List (List Char)) : xs.foldl pushSegment kept = xs.reverse ++ kept := by
  induction xs generalizing kept with
  | nil => rfl
  | cons s rest ih =>
    obtain ⟨notHere, notUp⟩ := plain s List.mem_cons_self
    rw [List.foldl_cons, pushSegment, if_neg notHere, if_neg notUp,
      ih (fun t member => plain t (List.mem_cons_of_mem s member))]
    simp

theorem foldl_pushSegment_up (n : Nat) (kept : List (List Char)) :
    (List.replicate n ['.', '.']).foldl pushSegment kept = kept.drop n := by
  induction n generalizing kept with
  | zero => rfl
  | succ k ih =>
    rw [List.replicate_succ, List.foldl_cons, ih]
    simp [pushSegment]

theorem resolveFrom_climb {dir : List (List Char)} {path target : String}
    (plainDir : ∀ s ∈ dir, s ≠ ['.'] ∧ s ≠ ['.', '.']) (deep : dir.length = depth path)
    (plainTarget : ∀ s ∈ segments target, s ≠ ['.'] ∧ s ≠ ['.', '.']) :
    resolveFrom dir (rootPrefix path ++ target) = segments target := by
  rw [resolveFrom, normalize, segments_rootPrefix_append]
  split
  · rename_i root
    have atRoot : dir = [] := List.eq_nil_of_length_eq_zero (deep.trans root)
    rw [atRoot, List.nil_append, List.singleton_append, List.foldl_cons]
    rw [show pushSegment [] ['.'] = [] from rfl, foldl_pushSegment_plain plainTarget,
      List.append_nil, List.reverse_reverse]
  · rw [← List.append_assoc, List.foldl_append, List.foldl_append, foldl_pushSegment_plain plainDir,
      foldl_pushSegment_up, List.append_nil, ← deep, ← List.length_reverse, List.drop_length,
      foldl_pushSegment_plain plainTarget, List.append_nil, List.reverse_reverse]

/-- For schema paths `F` and `D` whose segments are plain, the import target of `D` computed for
`F` (the root prefix of `F`, then the module path of `D`), resolved from the directory of the
declarations artifact of `F` or from that of its services artifact and normalised, is the module
path of `D` below the output root. -/
theorem import_target_resolves {F D : String} (plainF : PlainPath F) (plainD : PlainPath D) :
    resolveFrom (directoryOf (declarationsName F)) (rootPrefix F ++ modulePath D) =
        segments (modulePath D) ∧
      resolveFrom (directoryOf (servicesName F)) (rootPrefix F ++ modulePath D) =
        segments (modulePath D) := by
  -- the directory of both artifacts is that of `F`: its segments but the last, one per `/`
  have plainDir : ∀ s ∈ (segments F).dropLast, s ≠ ['.'] ∧ s ≠ ['.', '.'] := by
    intro s member
    have plainSeg := plainF s (List.dropLast_subset _ member)
    exact ⟨plainSeg.2.1, plainSeg.2.2⟩
  have deep : ((segments F).dropLast).length = depth F := by
    rw [← directoryOf, length_directoryOf]
  have climb := resolveFrom_climb plainDir deep (modulePath_segments plainD)
  rw [declarationsName, servicesName, directoryOf_modulePath_append F _ (by decide),
    directoryOf_modulePath_append F _ (by decide)]
  exact ⟨climb, climb⟩

theorem order_imports_money :
    PlainPath "acme/shop/order.proto" ∧ PlainPath "acme/common/money.proto" ∧
      resolveFrom (directoryOf (declarationsName "acme/shop/order.proto"))
          (rootPrefix "acme/shop/order.proto" ++ modulePath "acme/common/money.proto") =
        segments (modulePath "acme/common/money.proto") ∧
      resolveFrom (directoryOf (servicesName "acme/shop/order.proto"))
          (rootPrefix "acme/shop/order.proto" ++ modulePath "acme/common/money.proto") =
        segments (modulePath "acme/common/money.proto") :=
  ⟨by decide, by decide, import_target_resolves (by decide) (by decide)⟩

end ProtoTypings.Module
