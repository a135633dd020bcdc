import RpcSchema.Proofs.Code.RustLiterals
import RpcSchema.Proofs.Generation.GoNeeds
import RpcSchema.Proofs.Naming.Marks
import RpcSchema.Target.RustServer
import RpcSchema.Target.RustValidation

/-!
# Texts and integers in generated code

The texts of a schema come back from the code that is generated for it: the defaults, the names of
fields, the values that a field may have and the messages of failures from the code that validates,
the names of methods and fields from the dispatch of a server. Integers come back from the literals
of Rust and of Go.
-/

namespace RpcSchema

open Code Decimal Naming Text RustCode

/-! ## Integers -/

/-- What decimal digits say. -/
def decimal? (chars : List Char) : Option Nat :=
  if chars ≠ [] ∧ chars.all Char.isDigit then some (Nat.ofDigitChars 10 chars 0) else none

/-- The same in Go, where digits behind a zero are octal. -/
def GoCode.decimal? (chars : List Char) : Option Nat :=
  match chars with
  | '0' :: c :: rest =>
    if (c :: rest).all fun c => '0' ≤ c && c ≤ '7' then some (Nat.ofDigitChars 8 (c :: rest) 0)
    else none
  | chars => RpcSchema.decimal? chars

/-- The integer of 64 bits that a literal says, with the given meaning of digits. Others are refused
by the compiler. -/
def integer? (digits? : List Char → Option Nat) (code : String) : Option Int :=
  (match code.toList with
    | '-' :: chars => (digits? chars).map fun n : Nat => -(n : Int)
    | chars => (digits? chars).map fun n : Nat => (n : Int)).filter Json.isSignedWord

theorem decimal?_toDigits (n : Nat) : decimal? (Nat.toDigits 10 n) = some n := by
  rw [decimal?, if_pos ⟨Nat.toDigits_ne_nil, all_isDigit_toDigits n⟩, Nat.ofDigitChars_ten_toDigits]

theorem GoCode.decimal?_toDigits (n : Nat) : GoCode.decimal? (Nat.toDigits 10 n) = some n := by
  rw [GoCode.decimal?]
  · exact RpcSchema.decimal?_toDigits n
  · exact toDigits_ne_zero_cons n

/-- An integer that fits is what its literal says, if that is so of the digits of its magnitude. -/
theorem integer?_integerChars {digits? : List Char → Option Nat}
    (read : ∀ n, digits? (Nat.toDigits 10 n) = some n) {value : Int}
    (fits : Json.isSignedWord value) :
    integer? digits? (String.ofList (Json.integerChars value)) = some value := by
  rw [integer?, String.toList_ofList, Json.integerChars]
  split_ifs with negative
  · simp only [read, Option.map_some]
    have back : -(value.natAbs : Int) = value := by omega
    rw [back, Option.filter_some, if_pos fits]
  · have unsigned : ∀ chars, Nat.toDigits 10 value.natAbs ≠ '-' :: chars := by
      intro chars spelled
      have digit := Nat.isDigit_of_mem_toDigits (b := 10) (n := value.natAbs) (c := '-') (by decide)
        (by decide) (spelled ▸ List.mem_cons_self)
      cases digit
    split
    · next chars spelled => exact absurd spelled (unsigned chars)
    · have back : (value.natAbs : Int) = value := by omega
      rw [read, Option.map_some, back, Option.filter_some, if_pos fits]

/-! ## Names without quotes -/

theorem unquoted_fieldName (name : String) : Unquoted (Convention.rust.fieldName name) :=
  Convention.not_mem_fieldName Convention.rust_mem_languages (by decide) (by decide) (by decide) name

theorem unquoted_inputType (method : String) : Unquoted (Convention.rust.inputType method) :=
  Convention.not_mem_inputType Convention.rust_mem_languages (by decide) (by decide) method

theorem unquoted_methodName (name : String) : Unquoted (Convention.rust.methodName name) :=
  Convention.not_mem_safeName Convention.rust_mem_languages (by decide) (by decide)
    (Convention.not_mem_cased (by decide) (by decide) (by decide) name)

/-! ## Code that validates -/

/-- The text that a default value is, if it is one. -/
def DefaultValue.texts : DefaultValue → List String
  | .string text => [text]
  | .integer _ => []
  | .float _ => []

namespace RustValidation

/-- The texts that a check has in the first pass. -/
def defaultTexts : Check → List String
  | .default _ value => value.texts
  | _ => []

/-- The texts that a check has in the second pass. -/
def ruleTexts : Check → List String
  | .required field _ => [field.name, requiredMessage]
  | .oneOf field => field.enumValues ++ [field.name, oneOfMessage field.enumValues]
  | _ => []

theorem textsIn?_failure (key message : String) :
    textsIn? (rowsIn [failure key message]) = some [key, message] := by
  have row : Reads ("return Err(ValidationError::new(" ++ quoted key ++ ", " ++ quoted message ++
      "));") ([key] ++ [message]) := by
    rw [String.append_assoc]
    exact ((reads_quoted key).around (by decide) (by decide)).append
      ((reads_quoted message).append (Unquoted.reads (by decide)))
  exact textsIn?_line row

theorem reads_literal (value : DefaultValue) : Reads (literal value) value.texts := by
  cases value with
  | string text =>
      exact (reads_quoted text).append (Unquoted.reads (by decide : Unquoted ".to_string()"))
  | integer value =>
      refine Unquoted.reads ?_
      rw [literal, Unquoted, String.toList_ofList]
      exact GoValidation.unmarked_integerChars value _ (by decide)
  | float value => exact Unquoted.reads (GoValidation.unmarked_text _ value _ (by decide))

theorem unquoted_placeOf (field : Field) : Unquoted (placeOf field) := unquoted_fieldName field.name

/-- The texts of a statement of the first pass are those that are put in. -/
theorem textsIn?_defaultStatement (check : Check) :
    textsIn? (rowsIn ((DefaultStatement.ofCheck check).map DefaultStatement.fragment)) =
      some (defaultTexts check) := by
  have place := unquoted_placeOf check.field
  cases check with
  | default field value =>
      have header : Unquoted ("if " ++ fillCondition ("self." ++ placeOf field) value ++ " \x7b") := by
        cases value <;> simp only [fillCondition, unquoted_append] <;>
          exact ⟨⟨by decide, ⟨by decide, place⟩, by decide⟩, by decide⟩
      have target : Unquoted ("self." ++ placeOf field ++ " = ") := by
        simp only [unquoted_append]
        exact ⟨⟨by decide, place⟩, by decide⟩
      have row := (reads_literal value).around target (by decide : Unquoted ";")
      exact textsIn?_block header.reads (textsIn?_line row) (by decide)
  | elements field element =>
      have header : Unquoted ("for v in &mut self." ++ placeOf field ++ " \x7b") := by
        simp only [unquoted_append]
        exact ⟨⟨by decide, place⟩, by decide⟩
      exact textsIn?_block header.reads (textsIn?_line (Unquoted.reads (by decide))) (by decide)
  | required | oneOf => rfl

theorem unquoted_unsetCondition {place : String} (unquoted : Unquoted place) (zero : Zero) :
    Unquoted (unsetCondition place zero) := by
  cases zero <;> exact unquoted_append.mpr ⟨unquoted, by decide⟩

/-- The texts of a statement of the second pass are the values that are asked for, the name of the
field and the message. -/
theorem textsIn?_checkStatement (check : Check) :
    textsIn? (rowsIn ((CheckStatement.ofCheck check).map CheckStatement.fragment)) =
      some (ruleTexts check) := by
  have place := unquoted_placeOf check.field
  have target : Unquoted ("self." ++ placeOf check.field) := unquoted_append.mpr ⟨by decide, place⟩
  cases check with
  | default field value => rfl
  | required field zero =>
      have header : Unquoted ("if " ++ unsetCondition ("self." ++ placeOf field) zero ++ " \x7b") := by
        simp only [unquoted_append]
        exact ⟨⟨by decide, unquoted_unsetCondition target zero⟩, by decide⟩
      exact textsIn?_block header.reads (textsIn?_failure field.name requiredMessage) (by decide)
  | oneOf field =>
      have before : Unquoted ("if !" ++ ("self." ++ placeOf field) ++ ".is_empty() && ![") := by
        simp only [unquoted_append]
        exact ⟨⟨by decide, by decide, place⟩, by decide⟩
      have header := (((reads_values field.enumValues).around before
        (by decide : Unquoted "].contains(&")).followed target).followed
          (by decide : Unquoted ".as_str()) \x7b")
      exact textsIn?_block header (textsIn?_failure field.name (oneOfMessage field.enumValues))
        (by decide)
  | elements field element =>
      have header : Unquoted ("for (i, v) in self." ++ placeOf field ++ ".iter().enumerate() \x7b") := by
        simp only [unquoted_append]
        exact ⟨⟨by decide, place⟩, by decide⟩
      exact textsIn?_block header.reads (textsIn?_line (Unquoted.reads (by decide))) (by decide)

/-- The texts in the code that validates are those of the checks that it makes. -/
theorem textsIn?_validation (checks : List Check) :
    textsIn? (rowsIn ((Validation.ofChecks checks).defaults.map DefaultStatement.fragment)) =
        some (checks.flatMap defaultTexts) ∧
      textsIn? (rowsIn ((Validation.ofChecks checks).checks.map CheckStatement.fragment)) =
        some (checks.flatMap ruleTexts) := by
  rw [Validation.ofChecks, List.map_flatMap, List.map_flatMap, rowsIn_flatMap, rowsIn_flatMap]
  exact ⟨textsIn?_flatMap fun check _ => textsIn?_defaultStatement check,
    textsIn?_flatMap fun check _ => textsIn?_checkStatement check⟩

end RustValidation

/-! ## Servers -/

namespace RustServer

/-- The texts that a method has in the dispatch. -/
def armTexts (config : RustServer) (method : Method) : List String :=
  method.name ::
    if config.tracing then "rpc" :: method.name :: method.inputs.map Field.name else []

theorem reads_spanFields (method : Method) :
    Reads (spanFields method) ("rpc" :: method.name :: method.inputs.map Field.name) := by
  have each : List.Forall₂ Reads
      (method.inputs.map fun field =>
        quoted field.name ++ " = ?input." ++ Convention.rust.fieldName field.name)
      (method.inputs.map fun field => [field.name]) := by
    rw [List.forall₂_map_left_iff, List.forall₂_map_right_iff, List.forall₂_same]
    exact fun field _ => ((reads_quoted field.name).followed (by decide)).followed
      (unquoted_fieldName field.name)
  have named : Reads ("method = " ++ quoted method.name) [method.name] :=
    (Unquoted.reads (by decide : Unquoted "method = ")).append (reads_quoted method.name)
  have rpc : Reads "\"rpc\"" ["rpc"] := fun _ => rfl
  have whole := reads_intercalate ", " (by decide) (.cons rpc (.cons named each))
  have flat : (method.inputs.map fun field => [field.name]).flatten =
      method.inputs.map Field.name := by
    rw [← List.flatMap_def, List.map_eq_flatMap]
  rwa [List.flatten_cons, List.flatten_cons, flat] at whole

theorem textsIn?_readFragments (config : RustServer) (method : Method) :
    textsIn? (rowsIn (Arm.ofMethod config method).readFragments) = some [] := by
  rw [Arm.readFragments, Arm.ofMethod]
  cases method.hasInputs with
  | false => rfl
  | true =>
      have header : Unquoted ("let input: " ++ Convention.rust.inputType method.name ++ " = match " ++
          config.reader.function ++ "(&req) \x7b") := by
        simp only [unquoted_append]
        refine ⟨⟨⟨⟨by decide, unquoted_inputType method.name⟩, by decide⟩, ?_⟩, by decide⟩
        cases config.reader <;> decide
      have body : textsIn? (rowsIn [.line "Ok(input) => input,",
          .line "Err(err) => return write_error(&err),"]) = some ([] ++ []) :=
        textsIn?_append (textsIn?_singleton (Unquoted.reads (by decide)))
          (textsIn?_singleton (Unquoted.reads (by decide)))
      exact textsIn?_block header.reads body (by decide)

theorem unquoted_call (config : RustServer) (method : Method) :
    Unquoted (Arm.ofMethod config method).call := by
  rw [Arm.call]
  simp only [unquoted_append]
  refine ⟨⟨⟨by decide, unquoted_methodName method.name⟩, ?_⟩, ?_⟩ <;> split <;> decide

/-- The texts in an arm of the dispatch are the name of its method, and those of the span that traces
it. -/
theorem textsIn?_arm (config : RustServer) (method : Method) :
    textsIn? (rowsIn [(Arm.ofMethod config method).fragment]) = some (armTexts config method) := by
  have spans : textsIn? (rowsIn (Arm.ofMethod config method).spanFragments) =
      some (if config.tracing then "rpc" :: method.name :: method.inputs.map Field.name else []) := by
    rw [Arm.spanFragments, Arm.ofMethod]
    cases config.tracing with
    | false => rfl
    | true => exact textsIn?_line ((reads_spanFields method).around (by decide) (by decide))
  have answer : Unquoted ((Arm.ofMethod config method).responder.function ++ "(" ++
      (Arm.ofMethod config method).call ++ ".await)") := by
    simp only [unquoted_append]
    refine ⟨⟨⟨?_, by decide⟩, unquoted_call config method⟩, by decide⟩
    cases (Arm.ofMethod config method).responder <;> decide
  have body := textsIn?_append
    (textsIn?_append (textsIn?_readFragments config method) spans) (textsIn?_line answer.reads)
  rw [← rowsIn_append, ← rowsIn_append, List.nil_append, List.append_nil] at body
  exact textsIn?_block ((reads_quoted method.name).followed (by decide)) body (by decide)

/-- The texts in the arms of a dispatch are those of all methods. -/
theorem textsIn?_arms (config : RustServer) (schema : Schema) :
    textsIn? (rowsIn ((config.arms schema).map Arm.fragment)) =
      some (schema.methods.flatMap (armTexts config)) := by
  rw [arms, List.map_map, List.map_eq_flatMap, rowsIn_flatMap]
  exact textsIn?_flatMap fun method _ => textsIn?_arm config method

/-- The text in a function of the stub is its message. -/
theorem textsIn?_stubFunc (method : Method) :
    textsIn? (rowsIn (stubFunc method).body) =
      some [Convention.rust.methodName method.name ++ " is not implemented"] :=
  textsIn?_line ((reads_quoted _).around (by decide) (by decide))

end RustServer

/-! ## Defaults -/

/-- A text or an integer that is put in is the one that the schema declares. -/
theorem defaultValue_of_defaultCheck {field : Field} {value : DefaultValue}
    (put : field.defaultCheck = .ok (some value)) :
    match value with
    | .string text => field.defaultValue = some (.string text)
    | .integer value => field.defaultValue = some (.integer value) ∧ Json.isSignedWord value
    | .float _ => True := by
  unfold Field.defaultCheck at put
  -- The branch that puts a value in has found it declared.
  repeat' split at put
  all_goals cases put
  all_goals trivial

/-- What is written for texts and integers says what they are. Every text is one literal of Rust that
says this text, on one line and with no quote that would end it before its end; such are the defaults,
values, field names and messages in code that validates, and the names and messages in a server.
Every integer of 64 bits is the same in Rust and in Go. Both say the defaults that fields declare. -/
theorem literals_read_back :
    (∀ text : String, texts? (quoted text) = some [text] ∧ '\n' ∉ (quoted text).toList ∧
      quotation? (quoted text).toList = some ⟨['"'], text.toList.flatMap quotedChar, ['"']⟩) ∧
    (∀ checks : List Check,
      textsIn? (rowsIn ((RustValidation.Validation.ofChecks checks).defaults.map
          RustValidation.DefaultStatement.fragment)) =
        some (checks.flatMap RustValidation.defaultTexts) ∧
      textsIn? (rowsIn ((RustValidation.Validation.ofChecks checks).checks.map
          RustValidation.CheckStatement.fragment)) =
        some (checks.flatMap RustValidation.ruleTexts)) ∧
    (∀ (config : RustServer) (schema : Schema),
      textsIn? (rowsIn ((config.arms schema).map RustServer.Arm.fragment)) =
        some (schema.methods.flatMap (RustServer.armTexts config)) ∧
      ∀ method ∈ schema.methods, textsIn? (rowsIn (RustServer.stubFunc method).body) =
        some [Convention.rust.methodName method.name ++ " is not implemented"]) ∧
    (∀ value : Int, Json.isSignedWord value →
      integer? decimal? (RustValidation.literal (.integer value)) = some value ∧
      integer? GoCode.decimal? (GoValidation.literals (.integer value)).2 = some value) ∧
    ∀ field : Field,
      (∀ text, field.defaultCheck = .ok (some (.string text)) →
        field.defaultValue = some (.string text)) ∧
      ∀ value, field.defaultCheck = .ok (some (.integer value)) →
        field.defaultValue = some (.integer value) ∧ Json.isSignedWord value := by
  refine ⟨fun text => ?_, RustValidation.textsIn?_validation, fun config schema => ?_,
    fun value fits => ?_, fun field => ?_⟩
  · exact ⟨(reads_quoted text).texts?, lineFeed_not_mem_quoted text, quotation?_quoted text⟩
  · exact ⟨RustServer.textsIn?_arms config schema, fun method _ => RustServer.textsIn?_stubFunc method⟩
  · exact ⟨integer?_integerChars decimal?_toDigits fits,
      integer?_integerChars GoCode.decimal?_toDigits fits⟩
  · exact ⟨fun text put => defaultValue_of_defaultCheck put,
      fun value put => defaultValue_of_defaultCheck put⟩

/-- A field with the least integer for its default, and one with a text that has quotes. -/
def depthField : Field :=
  { name := "depth", type := .primitive .integer
    defaultValue := some (.integer (-0x8000000000000000)) }

def motto : Field :=
  { name := "motto", type := .primitive .string, defaultValue := some (.string "say \"hi\"") }

theorem literals_read_back_depth :
    integer? decimal? (RustValidation.literal (.integer (-0x8000000000000000))) =
        some (-0x8000000000000000) ∧
      integer? GoCode.decimal? (GoValidation.literals (.integer (-0x8000000000000000))).2 =
        some (-0x8000000000000000) ∧
      depthField.defaultValue = some (.integer (-0x8000000000000000)) ∧
      motto.defaultValue = some (.string "say \"hi\"") := by
  obtain ⟨-, -, -, integers, defaults⟩ := literals_read_back
  obtain ⟨inRust, inGo⟩ := integers (-0x8000000000000000) (by decide)
  obtain ⟨declared, -⟩ := (defaults depthField).2 (-0x8000000000000000) rfl
  exact ⟨inRust, inGo, declared, (defaults motto).1 "say \"hi\"" rfl⟩

end RpcSchema
