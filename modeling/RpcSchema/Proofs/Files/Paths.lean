import RpcSchema.Files.Path

/-!
# Steps of paths

What a path stands for is read off its parts: a slash stands between the steps before it and the
steps behind it, and a name without a slash is one step.
-/

namespace RpcSchema.Files

theorem splitSlashes_ne_nil (text : List Char) : splitSlashes text ≠ [] := by
  cases text with
  | nil => simp [splitSlashes]
  | cons c rest =>
      rw [splitSlashes]
      split
      · exact List.cons_ne_nil _ _
      · split <;> exact List.cons_ne_nil _ _

theorem splitSlashes_append (front rest : List Char) :
    splitSlashes (front ++ '/' :: rest) = splitSlashes front ++ splitSlashes rest := by
  induction front with
  | nil => simp [splitSlashes]
  | cons c front ih =>
      rw [List.cons_append, splitSlashes, splitSlashes, ih]
      split
      · rfl
      · cases parts : splitSlashes front with
        | nil => exact absurd parts (splitSlashes_ne_nil front)
        | cons part parts => rfl

theorem splitSlashes_of_not_mem {text : List Char} (single : '/' ∉ text) :
    splitSlashes text = [text] := by
  induction text with
  | nil => rfl
  | cons c rest ih =>
      rw [List.mem_cons, not_or] at single
      rw [splitSlashes, if_neg (Ne.symm single.1), ih single.2]

/-- A slash stands between the steps before it and the steps behind it. -/
theorem Path.steps_append (front rest : String) :
    (ofText (front ++ "/" ++ rest)).steps = (ofText front).steps ++ (ofText rest).steps := by
  have spelled : (front ++ "/" ++ rest).toList = front.toList ++ '/' :: rest.toList := by simp
  simp only [ofText, spelled, splitSlashes_append, List.filter_append, List.map_append]

/-- The name of a page is a step inwards. -/
theorem page_ne_outwards (name : String) : name ++ ".md" ≠ ".." := by
  intro same
  have lengths := congrArg String.length same
  rw [String.length_append] at lengths
  have : ".md".length = 3 := by decide
  have : "..".length = 2 := by decide
  omega

/-- A page lies in its directory, under its name. -/
theorem Path.steps_page (directory : String) {name : String} (plain : '/' ∉ name.toList) :
    (ofText (directory ++ "/" ++ name ++ ".md")).steps =
      (ofText directory).steps ++ [name ++ ".md"] := by
  have single : '/' ∉ (name ++ ".md").toList := by
    rw [String.toList_append, List.mem_append, not_or]
    exact ⟨plain, by decide⟩
  have leads : isIdle (name ++ ".md").toList = false := by
    rw [isIdle, Bool.or_eq_false_iff]
    refine ⟨by simp, beq_eq_false_iff_ne.mpr fun same => ?_⟩
    simpa using congrArg List.length same
  have own : (ofText (name ++ ".md")).steps = [name ++ ".md"] := by
    simp only [ofText, splitSlashes_of_not_mem single, List.filter_cons, List.filter_nil, leads,
      Bool.not_false, if_true, List.map_cons, List.map_nil, String.ofList_toList]
  rw [String.append_assoc, steps_append, own]

theorem Path.dropLast_steps_page (directory : String) {name : String} (plain : '/' ∉ name.toList) :
    (ofText (directory ++ "/" ++ name ++ ".md")).steps.dropLast = (ofText directory).steps := by
  rw [steps_page directory plain, List.dropLast_concat]

/-- What is joined to a directory lies behind the steps to the directory. -/
theorem Path.steps_join (directory : String) {path : String}
    (relative : path.toList.head? ≠ some '/') :
    (ofText (join directory path)).steps = (ofText directory).steps ++ (ofText path).steps := by
  have nowhere : (ofText "").steps = [] := by decide
  rw [join, if_neg relative]
  split
  · next direct =>
    rcases (Bool.or_eq_true ..).mp direct with empty | closed
    · rw [String.isEmpty_iff.mp empty, nowhere, String.empty_append, List.nil_append]
    · obtain ⟨front, spelled⟩ := List.getLast?_eq_some_iff.mp (beq_iff_eq.mp closed)
      obtain rfl : directory = String.ofList front ++ "/" := by
        rw [← String.toList_inj, spelled, String.toList_append, String.toList_ofList]
        rfl
      have open_ := steps_append (String.ofList front) ""
      rw [String.append_empty, nowhere, List.append_nil] at open_
      rw [steps_append, open_]
  · exact steps_append directory path

/-- What is joined to a directory starts where the directory does. -/
theorem Path.isAbsolute_join (directory : String) {path : String}
    (relative : path.toList.head? ≠ some '/') :
    (ofText (join directory path)).isAbsolute = (ofText directory).isAbsolute := by
  have starts : ∀ rest : String, directory.isEmpty = false →
      (directory ++ rest).toList.head? = directory.toList.head? := by
    intro rest nonempty
    obtain ⟨first, others, spelled⟩ := List.exists_cons_of_ne_nil
      (by simpa using nonempty : directory.toList ≠ [])
    rw [String.toList_append, spelled]
    rfl
  simp only [ofText, join, if_neg relative]
  cases isEmpty : directory.isEmpty with
  | true =>
      rw [String.isEmpty_iff.mp isEmpty, Bool.true_or, if_pos rfl, String.empty_append]
      exact beq_eq_false_iff_ne.mpr relative
  | false =>
      split
      · rw [starts path isEmpty]
      · rw [String.append_assoc, starts _ isEmpty]

end RpcSchema.Files
