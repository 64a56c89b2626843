import ProtoTypings.Layout.Printer

namespace ProtoTypings.Layout

theorem depthAfterSteps_append (d : Nat) (xs ys : List Step) :
    depthAfterSteps d (xs ++ ys) = depthAfterSteps (depthAfterSteps d xs) ys := by
  induction xs generalizing d with
  | nil => rfl
  | cons s rest ih => exact ih _

theorem renderSteps_append (depth : Nat) (xs ys : List Step) :
    renderSteps depth (xs ++ ys) =
      renderSteps depth xs ++ renderSteps (depthAfterSteps depth xs) ys := by
  induction xs generalizing depth with
  | nil => simp [renderSteps, depthAfterSteps]
  | cons s rest ih =>
    simp only [List.cons_append, renderSteps, depthAfterSteps, ih, String.append_assoc]

theorem print_eq_render (steps : List Step) : print steps = render steps := by
  simp [print, render, run_text]

/-- Steps that bring the printer back to the outermost level are rendered apart from what
follows them. -/
theorem render_append {xs : List Step} (back : depthAfterSteps 0 xs = 0) (ys : List Step) :
    render (xs ++ ys) = render xs ++ render ys := by
  rw [render, renderSteps_append, back]
  rfl

theorem depthAfterSteps_lines (depth : Nat) (texts : List String) :
    depthAfterSteps depth (texts.map Step.line) = depth := by
  induction texts with
  | nil => rfl
  | cons text rest ih => exact ih

theorem renderLine_zero (text : String) : renderLine 0 text = text ++ "\n" := by
  unfold renderLine
  split
  · rename_i empty
    rw [String.isEmpty_iff.mp empty]
  · simp [indent]

@[simp] theorem render_nil : render [] = "" := rfl

@[simp] theorem render_blank : render [.blank] = "\n" := rfl

theorem render_blank_cons (rest : List Step) : render (.blank :: rest) = "\n" ++ render rest :=
  @render_append [.blank] rfl rest

theorem render_lines_append (texts : List String) (rest : List Step) :
    render (texts.map Step.line ++ rest) = render (texts.map Step.line) ++ render rest :=
  render_append (depthAfterSteps_lines 0 texts) rest

theorem render_lines (texts : List String) :
    render (texts.map Step.line) = String.join (texts.map (· ++ "\n")) := by
  induction texts with
  | nil => rfl
  | cons text rest ih =>
    rw [List.map_cons, ← List.singleton_append, render_append rfl, ih]
    simp [render, renderSteps, Step.render, renderLine_zero, String.join_cons]

end ProtoTypings.Layout
