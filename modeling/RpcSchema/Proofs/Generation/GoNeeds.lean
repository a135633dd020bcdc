import RpcSchema.Proofs.Code.Patterns
import RpcSchema.Proofs.Code.Rows
import RpcSchema.Target.GoValidation

/-!
# What the rows of Go validation need

A `Validate` method relies on what is outside of it: on the package that formats errors, on the
package of the runtime, and on the function that looks texts up. What rows rely on is read off them,
outside their literals, and is what their statements are said to need.
-/

namespace RpcSchema

open Code Naming

namespace GoValidation

/-! ## What rows need -/

/-- What a row of a `Validate` method needs from outside of it. -/
def Needs.ofRow (runtime row : String) : Needs where
  fmt := occurs "fmt.Errorf(" row
  runtime := occurs (runtime ++ ".ValidationError\x7b") row
  oneOf := occurs "oneOf(" row

/-- What is needed by any of several needs. -/
def Needs.all (needs : List Needs) : Needs := needs.foldl Needs.merge {}

namespace Needs

theorem merge_assoc (a b c : Needs) : (a.merge b).merge c = a.merge (b.merge c) := by
  simp only [merge, Bool.or_assoc]

theorem empty_merge (needs : Needs) : Needs.merge {} needs = needs := by
  simp only [merge, Bool.false_or]

theorem merge_empty (needs : Needs) : needs.merge {} = needs := by
  simp only [merge, Bool.or_false]

theorem foldl_merge (needs : List Needs) (first : Needs) :
    needs.foldl Needs.merge first = first.merge (all needs) := by
  induction needs generalizing first with
  | nil => exact (merge_empty first).symm
  | cons head rest ih =>
      rw [all, List.foldl_cons, List.foldl_cons, ih, ih, empty_merge, merge_assoc]

theorem all_cons (head : Needs) (rest : List Needs) : all (head :: rest) = head.merge (all rest) := by
  rw [all, List.foldl_cons, foldl_merge, empty_merge]

theorem all_append (front rest : List Needs) : all (front ++ rest) = (all front).merge (all rest) := by
  rw [all, List.foldl_append, foldl_merge]
  rfl

theorem all_flatMap {α : Type} (items : List α) (needs : α → List Needs) :
    all (items.flatMap needs) = all (items.map fun item => all (needs item)) := by
  induction items with
  | nil => rfl
  | cons item items ih => rw [List.flatMap_cons, all_append, ih, List.map_cons, all_cons]

theorem fmt_all (needs : List Needs) : (all needs).fmt = needs.any Needs.fmt := by
  induction needs with
  | nil => rfl
  | cons head rest ih => rw [all_cons, List.any_cons, ← ih, merge]

theorem runtime_all (needs : List Needs) : (all needs).runtime = needs.any Needs.runtime := by
  induction needs with
  | nil => rfl
  | cons head rest ih => rw [all_cons, List.any_cons, ← ih, merge]

theorem oneOf_all (needs : List Needs) : (all needs).oneOf = needs.any Needs.oneOf := by
  induction needs with
  | nil => rfl
  | cons head rest ih => rw [all_cons, List.any_cons, ← ih, merge]

end Needs

/-! ## Rows of statements -/

/-- What rows use from outside their method, each pattern up to its last character. -/
def calls : List String := ["fmt.Errorf(", ".ValidationError\x7b", "oneOf("]

/-- A text without quotes and without what patterns end with, as names and numbers are. -/
def Unmarked (text : List Char) : Prop := ∀ mark ∈ ['"', '(', '\x7b'], mark ∉ text

instance (text : List Char) : Decidable (Unmarked text) := List.decidableBAll _ _

theorem Unmarked.append {front rest : List Char} (unmarked : Unmarked front)
    (others : Unmarked rest) : Unmarked (front ++ rest) := fun mark listed =>
  List.not_mem_append (unmarked mark listed) (others mark listed)

theorem Unmarked.not_infix {text : List Char} (unmarked : Unmarked text) :
    ∀ pattern ∈ calls, ¬ pattern.toList <:+: text := by
  have ending : ∀ pattern ∈ calls, '(' ∈ pattern.toList.getLast? ∨ '\x7b' ∈ pattern.toList.getLast? := by
    decide
  intro pattern known
  rcases ending pattern known with ends | ends
  · exact not_infix_of_not_mem ends (unmarked _ (by decide))
  · exact not_infix_of_not_mem ends (unmarked _ (by decide))

theorem Unmarked.of_subset {text whole : List Char} (unmarked : Unmarked whole)
    (within : text ⊆ whole) : Unmarked text := fun mark listed member =>
  unmarked mark listed (within member)

/-! ## Numbers -/

section Numbers

open Decimal

theorem unmarked_toDigits (n : Nat) : Unmarked (Nat.toDigits 10 n) := by
  have noDigit : ∀ mark ∈ ['"', '(', '\x7b'], mark.isDigit = false := by simp
  intro mark listed member
  have digit := Nat.isDigit_of_mem_toDigits (by decide) (by decide) member
  rw [noDigit mark listed] at digit
  cases digit

theorem unmarked_integerChars (value : Int) : Unmarked (Json.integerChars value) := by
  rw [Json.integerChars]
  split
  · exact .append (show Unmarked ['-'] by decide) (unmarked_toDigits _)
  · exact unmarked_toDigits _

theorem unmarked_replicate (count : Nat) : Unmarked (List.replicate count '0') :=
  .of_subset (show Unmarked ['0'] by decide) fun c member => by
    rw [List.eq_of_mem_replicate member]
    exact List.mem_singleton_self _

theorem unmarked_placePoint (point : Bool) {digits : List Char} (unmarked : Unmarked digits)
    (whole : Nat) : Unmarked (placePoint point digits whole) := by
  have head : Unmarked (digits.take whole ++ List.replicate (whole - digits.length) '0') :=
    .append (unmarked.of_subset (List.take_subset _ _)) (unmarked_replicate _)
  rw [placePoint]
  split
  · split
    · exact .append head (by decide)
    · exact head
  · exact .append head (.append (show Unmarked ['.'] by decide)
      (unmarked.of_subset (List.drop_subset _ _)))

theorem unmarked_digits_shortest (tie : Tie) (number : Binary64) :
    Unmarked (shortest tie number).digits := by
  rw [shortest]
  split
  · next n _ _ =>
    refine .of_subset (unmarked_toDigits n) fun c member => ?_
    rw [significantDigits, List.mem_reverse] at member
    exact List.mem_reverse.mp ((List.dropWhile_sublist _).subset member)
  · decide

theorem unmarked_write (style : Notation) {number : Digits} (unmarked : Unmarked number.digits) :
    Unmarked (style.write number) := by
  have sign : Unmarked (if number.exponent < 0 then ['-'] else if style.plus then ['+'] else []) := by
    split_ifs <;> decide
  rw [Notation.write]
  split
  · split
    · exact unmarked_placePoint _ unmarked _
    · exact .append (.append (show Unmarked ['0', '.'] by decide) (unmarked_replicate _)) unmarked
  · exact .append (.append (unmarked_placePoint _ unmarked _)
      (.append (show Unmarked ['e'] by decide) sign)) (unmarked_toDigits _)

theorem unmarked_text (style : Notation) (number : Binary64) :
    Unmarked (style.text number).toList := by
  have sign : Unmarked (if number.isNegative then "-" else "").toList := by
    split <;> decide
  rw [Notation.text]
  split
  · split
    · rw [String.toList_append]
      exact .append sign (by decide)
    · decide
  · split
    · rw [String.toList_append]
      refine .append sign ?_
      split <;> decide
    · rw [String.toList_append, String.toList_ofList]
      exact .append sign (unmarked_write style (unmarked_digits_shortest _ _))

end Numbers

/-- Whether no pattern is in a text or reaches into it. -/
def isSilent (patterns : List String) (text : List Char) : Bool :=
  patterns.all fun pattern =>
    isApart pattern.toList text && !decide (pattern.toList <:+: text)

theorem not_infix_of_isSilent {patterns : List String} {front rest : List Char}
    (silent : isSilent patterns rest)
    (inFront : ∀ pattern ∈ patterns, ¬ pattern.toList <:+: front) :
    ∀ pattern ∈ patterns, ¬ pattern.toList <:+: front ++ rest := by
  intro pattern known
  have apart := List.all_eq_true.mp silent pattern known
  rw [Bool.and_eq_true, Bool.not_eq_true', decide_eq_false_iff_not] at apart
  exact not_infix_append (inFront pattern known) apart.2 apart.1

section Rows

variable {runtime : String}

theorem ofRow_eq {row : String} {fmt builds oneOf : Bool}
    (fmts : occurs "fmt.Errorf(" row = fmt)
    (runtimes : occurs (runtime ++ ".ValidationError\x7b") row = builds)
    (oneOfs : occurs "oneOf(" row = oneOf) :
    Needs.ofRow runtime row = ⟨fmt, builds, oneOf⟩ := by
  rw [Needs.ofRow, fmts, runtimes, oneOfs]

theorem occurs_eq_false {pattern row : String}
    (absent : ¬ pattern.toList <:+: outside .code row.toList) : occurs pattern row = false := by
  rw [← Bool.not_eq_true, occurs_iff]
  exact absent

theorem occurs_runtime_eq_false {row : String}
    (absent : ¬ ".ValidationError\x7b".toList <:+: outside .code row.toList) :
    occurs (runtime ++ ".ValidationError\x7b") row = false := by
  refine occurs_eq_false fun within => absent ?_
  rw [String.toList_append] at within
  exact (List.suffix_append _ _).isInfix.trans within

/-- A row with none of the patterns needs nothing. -/
theorem ofRow_of_not_infix {row : String}
    (absent : ∀ pattern ∈ calls, ¬ pattern.toList <:+: outside .code row.toList) :
    Needs.ofRow runtime row = {} :=
  ofRow_eq (occurs_eq_false (absent _ (by decide)))
    (occurs_runtime_eq_false (absent _ (by decide))) (occurs_eq_false (absent _ (by decide)))

/-- A row that is a name or number and a known rest. -/
theorem ofRow_append {front : String} (unmarked : Unmarked front.toList) (rest : String)
    (silent : isSilent calls (outside .code rest.toList)) :
    Needs.ofRow runtime (front ++ rest) = {} := by
  refine ofRow_of_not_infix ?_
  rw [String.toList_append, outside_append_of_not_mem (unmarked _ (by decide))]
  exact not_infix_of_isSilent silent unmarked.not_infix

theorem outside_stringText (text : String) (rest : List Char) :
    outside .code ((Json.stringText text).toList ++ rest) =
      "\"\"".toList ++ outside .code rest := by
  rw [Json.stringText, String.toList_ofList, outside_stringChars]
  rfl

theorem ofRow_append_stringText {front : String} (unmarked : Unmarked front.toList)
    (text : String) : Needs.ofRow runtime (front ++ Json.stringText text) = {} := by
  have literal := outside_stringText text []
  rw [List.append_nil] at literal
  refine ofRow_of_not_infix ?_
  rw [String.toList_append, outside_append_of_not_mem (unmarked _ (by decide)), literal]
  exact not_infix_of_isSilent (by decide) unmarked.not_infix

/-- The row that returns a validation error builds one and calls nothing. -/
theorem rows_failure (plain : Unmarked runtime.toList) (key message : String) :
    ((failure runtime key message).rows.map (Needs.ofRow runtime)) = [⟨false, true, false⟩] := by
  have code : outside .code ("return " ++ runtime ++ ".ValidationError\x7bField: " ++
      Json.stringText key ++ ", Message: " ++ Json.stringText message ++ "\x7d").toList =
        "return ".toList ++ (runtime ++ ".ValidationError\x7b").toList ++
          "Field: \"\", Message: \"\"\x7d".toList := by
    simp only [String.toList_append, List.append_assoc]
    rw [outside_append_of_not_mem (by decide), outside_append_of_not_mem (plain _ (by decide)),
      outside_append_of_not_mem (by decide), outside_stringText,
      outside_append_of_not_mem (by decide), outside_stringText]
    rfl
  have noCall : '(' ∉ "return ".toList ++ (runtime ++ ".ValidationError\x7b").toList ++
      "Field: \"\", Message: \"\"\x7d".toList := by
    have inRuntime := plain '(' (by decide)
    simp [inRuntime]
  rw [failure, Fragment.rows, List.map_singleton]
  refine congrArg (fun needs => [needs]) (ofRow_eq (occurs_eq_false ?_)
    (occurs_iff.mpr ?_) (occurs_eq_false ?_))
  · rw [code]
    exact not_infix_of_not_mem (by decide) noCall
  · rw [code]
    exact List.infix_append _ _ _
  · rw [code]
    exact not_infix_of_not_mem (by decide) noCall

/-- Of a list of texts its quotes and commas are left. -/
theorem outside_quotedList (values : List String) :
    ∃ quotes : List Char, (∀ c ∈ quotes, c ∈ ['"', ',', ' ']) ∧
      ∀ rest, outside .code ((quotedList values).toList ++ rest) =
        quotes ++ outside .code rest := by
  have spelled : (quotedList values).toList =
      ", ".toList.intercalate (values.map fun value => (Json.stringText value).toList) := by
    rw [quotedList, String.toList_intercalate, List.map_map]
    rfl
  rw [spelled]
  clear spelled
  induction values with
  | nil => exact ⟨[], by simp, fun rest => rfl⟩
  | cons value values ih =>
      obtain ⟨quotes, known, later⟩ := ih
      cases values with
      | nil =>
          refine ⟨"\"\"".toList, by simp, fun rest => ?_⟩
          rw [List.map_singleton, List.intercalate_singleton, outside_stringText]
      | cons next values =>
          refine ⟨"\"\", ".toList ++ quotes, fun c member => ?_, fun rest => ?_⟩
          · have separators : ∀ c ∈ "\"\", ".toList, c ∈ ['"', ',', ' '] := by simp
            exact (List.mem_append.mp member).elim (separators c) (known c)
          · have separated := later rest
            rw [List.map_cons] at separated
            rw [List.map_cons, List.map_cons, List.intercalate_cons_cons, List.append_assoc,
              List.append_assoc, outside_stringText, outside_append_of_not_mem (by decide),
              separated, ← List.append_assoc, ← List.append_assoc]
            rfl

theorem unmarked_quotedList (values : List String) :
    ∃ quotes : List Char, '(' ∉ quotes ∧ '\x7b' ∉ quotes ∧
      ∀ rest, outside .code ((quotedList values).toList ++ rest) =
        quotes ++ outside .code rest := by
  obtain ⟨quotes, known, outside⟩ := outside_quotedList values
  refine ⟨quotes, fun member => ?_, fun member => ?_, outside⟩
  · simpa using known _ member
  · simpa using known _ member

/-- What stands behind a place in the condition that it is not set. -/
def unsetTest : Zero → String
  | .emptyString => " == \"\""
  | .zeroInt => " == 0"
  | .zeroFloat => " == 0"
  | .emptyArray => " == nil"
  | .emptyObject => " == nil"
  | .unsetReference => " == nil"
  | .unsetTimestamp => ".IsZero()"

theorem ofRow_closing : Needs.ofRow runtime "\x7d" = {} :=
  ofRow_append (show Unmarked "".toList by decide) "\x7d" (by decide)

section Statements

variable {receiver place : String} (target : Unmarked (receiver ++ "." ++ place).toList)
include target

/-- A condition on a target. -/
theorem ofRow_condition {row rest : String} (spelled : row = "if " ++ (receiver ++ "." ++ place) ++ rest)
    (silent : isSilent calls (outside .code rest.toList)) : Needs.ofRow runtime row = {} := by
  rw [spelled]
  refine ofRow_append ?_ rest silent
  rw [String.toList_append]
  exact .append (by decide) target

theorem needs_fill (value : DefaultValue) :
    Needs.all (((Statement.fill place value).fragment runtime receiver).rows.map
      (Needs.ofRow runtime)) = {} := by
  have assigned : Unmarked (receiver ++ "." ++ place ++ " = ").toList := by
    rw [String.toList_append]
    exact .append target (by decide)
  have number {text : String} (unmarked : Unmarked text.toList) :
      Needs.ofRow runtime (receiver ++ "." ++ place ++ " = " ++ text) = {} := by
    have whole : Unmarked (receiver ++ "." ++ place ++ " = " ++ text).toList := by
      rw [String.toList_append]
      exact .append assigned unmarked
    have row : Needs.ofRow runtime (receiver ++ "." ++ place ++ " = " ++ text ++ "") = {} :=
      ofRow_append whole "" (by decide)
    rwa [String.append_empty] at row
  have zero : isSilent calls (outside .code (" == " ++ (literals value).1 ++ " \x7b").toList) := by
    have known : ∀ zero ∈ ["\"\"", "0"],
        isSilent calls (outside .code (" == " ++ zero ++ " \x7b").toList) := by
      decide
    cases value <;> exact known _ (by simp [literals])
  have header : Needs.ofRow runtime
      ("if " ++ (receiver ++ "." ++ place) ++ " == " ++ (literals value).1 ++ " \x7b") = {} :=
    ofRow_condition target (by simp only [String.append_assoc]) zero
  have assignment : Needs.ofRow runtime
      (receiver ++ "." ++ place ++ " = " ++ (literals value).2) = {} := by
    cases value with
    | string text => exact ofRow_append_stringText assigned text
    | integer value =>
        refine number ?_
        rw [literals, String.toList_ofList]
        exact unmarked_integerChars value
    | float value => exact number (unmarked_text _ value)
  have rows : ((Statement.fill place value).fragment runtime receiver).rows =
      ["if " ++ (receiver ++ "." ++ place) ++ " == " ++ (literals value).1 ++ " \x7b",
        receiver ++ "." ++ place ++ " = " ++ (literals value).2, "\x7d"] := rfl
  rw [rows, List.map_cons, List.map_cons, List.map_singleton, header, assignment, ofRow_closing]
  rfl

omit target in
theorem unsetCondition_eq (place : String) (zero : Zero) :
    unsetCondition place zero = place ++ unsetTest zero := by
  cases zero <;> rfl

theorem needs_require (plain : Unmarked runtime.toList) (key : String) (zero : Zero) :
    Needs.all (((Statement.require place key zero).fragment runtime receiver).rows.map
      (Needs.ofRow runtime)) = ⟨false, true, false⟩ := by
  have header : Needs.ofRow runtime
      ("if " ++ unsetCondition (receiver ++ "." ++ place) zero ++ " \x7b") = {} := by
    have silent : isSilent calls (outside .code (unsetTest zero ++ " \x7b").toList) := by
      cases zero <;> decide
    refine ofRow_condition target ?_ silent
    rw [unsetCondition_eq]
    simp only [String.append_assoc]
  have rows : ((Statement.require place key zero).fragment runtime receiver).rows =
      ("if " ++ unsetCondition (receiver ++ "." ++ place) zero ++ " \x7b") ::
        ((failure runtime key requiredMessage).rows ++ ["\x7d"]) := rfl
  rw [rows, List.map_cons, List.map_append, rows_failure plain, List.map_singleton, header,
    ofRow_closing]
  rfl

/-- The row that looks a text up among values does that and nothing else. -/
theorem ofRow_lookup (values : List String) :
    Needs.ofRow runtime ("if " ++ (receiver ++ "." ++ place) ++ " != \"\" && !oneOf(" ++
      (receiver ++ "." ++ place) ++ ", []string\x7b" ++ quotedList values ++ "\x7d) \x7b") =
        ⟨false, false, true⟩ := by
  generalize receiver ++ "." ++ place = subject at target
  obtain ⟨quotes, noCall, noBrace, literals⟩ := unmarked_quotedList values
  have code : outside .code ("if " ++ subject ++ " != \"\" && !oneOf(" ++ subject ++
      ", []string\x7b" ++ quotedList values ++ "\x7d) \x7b").toList =
        "if ".toList ++ subject.toList ++ " != \"\" && !oneOf(".toList ++ (subject.toList ++
          ", []string\x7b".toList ++ quotes ++ "\x7d) \x7b".toList) := by
    have compared (rest : List Char) :
        outside .code (" != \"\" && !oneOf(".toList ++ rest) =
          " != \"\" && !oneOf(".toList ++ outside .code rest := rfl
    simp only [String.toList_append, List.append_assoc]
    rw [outside_append_of_not_mem (by decide), outside_append_of_not_mem (target _ (by decide)),
      compared, outside_append_of_not_mem (target _ (by decide)),
      outside_append_of_not_mem (by decide), literals]
    rfl
  have opened : Unmarked ("if ".toList ++ subject.toList) := .append (by decide) target
  have called : ∀ pattern ∈ ["fmt.Errorf(", ".ValidationError\x7b"], ¬ pattern.toList <:+:
      "if ".toList ++ subject.toList ++ " != \"\" && !oneOf(".toList :=
    not_infix_of_isSilent (by decide) fun pattern known =>
      opened.not_infix pattern (List.mem_of_mem_dropLast known)
  refine ofRow_eq (occurs_eq_false ?_) (occurs_runtime_eq_false ?_) (occurs_iff.mpr ?_)
  · have noOther : '(' ∉ subject.toList ++ ", []string\x7b".toList ++ quotes ++
        "\x7d) \x7b".toList := by
      simp [noCall, target '(' (by decide)]
    rw [code]
    exact not_infix_append_of_not_mem (by decide) (called _ (by decide)) noOther
  · have inCall := called ".ValidationError\x7b" (by decide)
    have inSubject := not_infix_append_of_not_mem (by decide) inCall (target '\x7b' (by decide))
    have inList : ¬ ".ValidationError\x7b".toList <:+: "if ".toList ++ subject.toList ++
        " != \"\" && !oneOf(".toList ++ subject.toList ++ ", []string\x7b".toList :=
      not_infix_append inSubject (by decide) (by decide)
    have inQuotes := not_infix_append_of_not_mem (by decide) inList noBrace
    rw [code, ← List.append_assoc, ← List.append_assoc, ← List.append_assoc]
    exact not_infix_append inQuotes (by decide) (by decide)
  · rw [code]
    refine ⟨"if ".toList ++ subject.toList ++ " != \"\" && !".toList,
      subject.toList ++ ", []string\x7b".toList ++ quotes ++ "\x7d) \x7b".toList, ?_⟩
    simp

theorem needs_oneOf (plain : Unmarked runtime.toList) (key : String) (values : List String) :
    Needs.all (((Statement.oneOf place key values).fragment runtime receiver).rows.map
      (Needs.ofRow runtime)) = ⟨false, true, true⟩ := by
  have rows : ((Statement.oneOf place key values).fragment runtime receiver).rows =
      ("if " ++ (receiver ++ "." ++ place) ++ " != \"\" && !oneOf(" ++
        (receiver ++ "." ++ place) ++ ", []string\x7b" ++ quotedList values ++ "\x7d) \x7b") ::
        ((failure runtime key (oneOfMessage values)).rows ++ ["\x7d"]) := rfl
  rw [rows, List.map_cons, List.map_append, rows_failure plain, List.map_singleton,
    ofRow_lookup target, ofRow_closing]
  rfl

theorem needs_each (elementType : String) :
    Needs.all (((Statement.each place elementType).fragment runtime receiver).rows.map
      (Needs.ofRow runtime)) = ⟨true, false, false⟩ := by
  have header : Needs.ofRow runtime ("for i, v := range " ++ receiver ++ "." ++ place ++ " \x7b") =
      {} := by
    have spelled : "for i, v := range " ++ receiver ++ "." ++ place ++ " \x7b" =
        "for i, v := range " ++ (receiver ++ "." ++ place) ++ " \x7b" := by
      simp only [String.append_assoc]
    rw [spelled]
    refine ofRow_append ?_ " \x7b" (by decide)
    rw [String.toList_append]
    exact .append (by decide) target
  have element : Needs.ofRow runtime "if err := v.Validate(); err != nil \x7b" = {} :=
    ofRow_append (show Unmarked "".toList by decide) "if err := v.Validate(); err != nil \x7b" (by decide)
  have wrapped : Needs.ofRow runtime "return fmt.Errorf(\"element %d: %s\", i, err.Error())" =
      ⟨true, false, false⟩ :=
    ofRow_eq (occurs_iff.mpr (by decide)) (occurs_runtime_eq_false (by decide))
      (occurs_eq_false (by decide))
  have rows : ((Statement.each place elementType).fragment runtime receiver).rows =
      ["for i, v := range " ++ receiver ++ "." ++ place ++ " \x7b",
        "if err := v.Validate(); err != nil \x7b",
        "return fmt.Errorf(\"element %d: %s\", i, err.Error())", "\x7d", "\x7d"] := rfl
  rw [rows]
  simp only [List.map_cons, List.map_nil, header, element, wrapped, ofRow_closing]
  rfl

end Statements

end Rows

end GoValidation

end RpcSchema
