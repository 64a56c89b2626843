import Mathlib.Data.List.Basic
import Mathlib.Data.List.TakeDrop
import ProtoTypings.Plugin.Parameter

namespace ProtoTypings.Plugin

open ProtoTypings.Text

structure Part where
  key : String
  value : String
deriving DecidableEq, Repr

def Part.ofChars (part : List Char) : Part :=
  if '=' ∈ part then
    ⟨String.ofList (trimBlankChars (part.take (part.idxOf '='))),
      String.ofList (trimBlankChars (part.drop (part.idxOf '=' + 1)))⟩
  else ⟨String.ofList (trimBlankChars part), "true"⟩

def parts (text : String) : List Part :=
  (settings text).map Part.ofChars

def Part.understood (p : Part) : Bool :=
  p.key == "service" && (p.value == "true" || p.value == "false")

def Part.failure (p : Part) : Failure :=
  if p.key = "service" then .badParameter ("service expects true or false, got '" ++ p.value ++ "'")
  else .badParameter ("unknown option '" ++ p.key ++ "'")

/-- The options the grammar gives to parts, starting from `start`: the first part not understood
is the failure; else the last part sets services, and with no part `start` stands. -/
def verdictFrom (start : Run.Options) (ps : List Part) : Except Failure Run.Options :=
  match ps.find? (fun p => !p.understood) with
  | some bad => .error bad.failure
  | none => .ok { services := (ps.getLast?.map (·.value == "true")).getD start.services }

theorem span_at_sep (part : List Char) :
    part.span (· ≠ '=') =
      if '=' ∈ part then (part.take (part.idxOf '='), '=' :: part.drop (part.idxOf '=' + 1))
      else (part, []) := by
  rw [List.span_eq_takeWhile_dropWhile]
  induction part with
  | nil => rfl
  | cons c rest ih =>
    by_cases sep : c = '='
    · subst sep
      simp
    · have inRest : '=' ∈ c :: rest ↔ '=' ∈ rest := by simp [Ne.symm sep]
      rw [List.takeWhile_cons_of_pos (by simpa using sep),
        List.dropWhile_cons_of_pos (by simpa using sep), if_congr inRest rfl rfl,
        List.idxOf_cons_ne rest sep]
      split <;> simp_all

theorem splitSetting_eq (part : List Char) :
    splitSetting part =
      if '=' ∈ part then (part.take (part.idxOf '='), part.drop (part.idxOf '=' + 1))
      else (part, "true".toList) := by
  unfold splitSetting
  by_cases sep : '=' ∈ part
  · rw [span_at_sep, if_pos sep, if_pos sep]
  · rw [span_at_sep, if_neg sep, if_neg sep]

theorem applySetting_eq (o : Run.Options) (part : List Char) :
    applySetting o part =
      if (Part.ofChars part).understood then .ok { services := (Part.ofChars part).value == "true" }
      else .error (Part.ofChars part).failure := by
  -- both sides read the same key and value; what is left is the case split on them
  have read : (String.ofList (trimBlankChars (splitSetting part).1),
      String.ofList (trimBlankChars (splitSetting part).2)) =
        ((Part.ofChars part).key, (Part.ofChars part).value) := by
    rw [splitSetting_eq, Part.ofChars]
    split
    · rfl
    · have trimmed : trimBlankChars "true".toList = "true".toList := by decide
      rw [trimmed]
      rfl
  unfold applySetting
  rcases cut : splitSetting part with ⟨rawKey, rawValue⟩
  simp only [cut, Prod.mk.injEq] at read
  dsimp only
  rw [read.1, read.2]
  obtain ⟨key, value⟩ := Part.ofChars part
  simp only [Part.understood, Part.failure]
  by_cases isService : key = "service"
  · by_cases isTrue : value = "true"
    · simp [isService, isTrue]
    · by_cases isFalse : value = "false"
      · simp [isService, isFalse]
      · simp [isService, isTrue, isFalse]
  · simp [isService]

theorem verdictFrom_cons (start : Run.Options) (p : Part) (ps : List Part) :
    verdictFrom start (p :: ps) =
      if p.understood then verdictFrom { services := p.value == "true" } ps
      else .error p.failure := by
  unfold verdictFrom
  rw [List.find?_cons]
  by_cases kept : p.understood
  · -- an understood part is passed over, and its value stands when no part follows
    have later : ((p :: ps).getLast?.map (·.value == "true")).getD start.services =
        (ps.getLast?.map (·.value == "true")).getD (p.value == "true") := by
      rw [List.getLast?_cons]
      cases ps.getLast? <;> rfl
    rw [if_pos kept, later]
    simp only [kept, Bool.not_true]
  · rw [if_neg kept]
    simp only [Bool.not_eq_true] at kept
    simp only [kept, Bool.not_false]

theorem foldlM_applySetting (start : Run.Options) (settings : List (List Char)) :
    settings.foldlM applySetting start = verdictFrom start (settings.map Part.ofChars) := by
  induction settings generalizing start with
  | nil => rfl
  | cons part rest ih =>
    rw [List.foldlM_cons, applySetting_eq, List.map_cons, verdictFrom_cons]
    split
    · exact ih _
    · rfl

theorem parseParameter_eq_verdict (text : String) :
    parseParameter text = verdictFrom {} (parts text) :=
  foldlM_applySetting {} (settings text)

theorem verdictFrom_eq_ok_iff {start o : Run.Options} {ps : List Part} :
    verdictFrom start ps = .ok o ↔
      (∀ p ∈ ps, p.understood = true) ∧
        o = { services := (ps.getLast?.map (·.value == "true")).getD start.services } := by
  unfold verdictFrom
  split
  · rename_i bad found
    have failing := (List.find?_eq_some_iff_append.mp found).1
    simp only [reduceCtorEq, false_iff, not_and]
    intro all
    simp [all bad (List.mem_of_find?_eq_some found)] at failing
  · rename_i found
    have all : ∀ p ∈ ps, p.understood = true := by
      simpa using List.find?_eq_none.mp found
    rw [Except.ok.injEq]
    exact ⟨fun same => ⟨all, same.symm⟩, fun ⟨_, same⟩ => same.symm⟩

theorem verdictFrom_eq_error_iff {start : Run.Options} {e : Failure} {ps : List Part} :
    verdictFrom start ps = .error e ↔
      ∃ pre bad post, ps = pre ++ bad :: post ∧ (∀ p ∈ pre, p.understood = true) ∧
        bad.understood = false ∧ e = bad.failure := by
  unfold verdictFrom
  split
  · rename_i bad found
    obtain ⟨failing, pre, post, split, before⟩ := List.find?_eq_some_iff_append.mp found
    constructor
    · intro failed
      exact ⟨pre, bad, post, split, by simpa using before, by simpa using failing,
        (Except.error.inj failed).symm⟩
    · rintro ⟨pre', bad', post', split', before', failing', rfl⟩
      -- the first part not understood is the one the decomposition names
      have same : ps.find? (fun p => !p.understood) = some bad' := by
        rw [List.find?_eq_some_iff_append]
        exact ⟨by simpa using failing', pre', post', split', by simpa using before'⟩
      rw [found] at same
      cases same
      rfl
  · rename_i found
    simp only [reduceCtorEq, false_iff, not_exists, not_and]
    intro pre bad post split _ failing
    have all := List.find?_eq_none.mp found bad (by simp [split])
    simp [failing] at all

/-- A parameter text is accepted exactly when every part sets `service` to `true` or `false`,
and then services take the value of the last part, or stay on when there is no part; otherwise
the failure is that of the first part not understood, every part before it being understood. -/
theorem parseParameter_grammar (text : String) :
    (∀ o, parseParameter text = .ok o ↔
      (∀ p ∈ parts text, p.understood = true) ∧
        o = { services := ((parts text).getLast?.map (·.value == "true")).getD true }) ∧
    (∀ e, parseParameter text = .error e ↔
      ∃ pre bad post, parts text = pre ++ bad :: post ∧ (∀ p ∈ pre, p.understood = true) ∧
        bad.understood = false ∧ e = bad.failure) := by
  rw [parseParameter_eq_verdict]
  exact ⟨fun _ => verdictFrom_eq_ok_iff, fun _ => verdictFrom_eq_error_iff⟩

example : parseParameter "service=true=x" =
    .error (.badParameter "service expects true or false, got 'true=x'") := by decide

example : parseParameter " service = false , =x, mode" = .error (.badParameter "unknown option ''") := by
  decide

end ProtoTypings.Plugin
