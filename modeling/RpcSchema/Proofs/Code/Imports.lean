import Mathlib.Data.List.Sort
import Mathlib.Data.String.Basic
import RpcSchema.Proofs.Code.Written
import RpcSchema.Proofs.Json.Members
import RpcSchema.Target.GoCode
import RpcSchema.Target.RustCode

/-!
# Imports of a file

What a file imports is collected while its parts are put together, in any order and some of it
several times. The imports that are written depend on what was mentioned alone. For Rust this is
said by what the list of statements is, an entry for each module with a symbol, modules by their
origin and then by name; there is only one such list for the same modules and symbols.
-/

namespace RpcSchema

namespace Code

/-! ## Sets of names -/

theorem mem_insertName {name other : String} {set : List String} :
    other ∈ insertName name set ↔ other = name ∨ other ∈ set := by
  induction set with
  | nil => simp [insertName]
  | cons first rest ih =>
      rw [insertName]
      split
      · exact List.mem_cons
      · split
        · next same => simp [same]
        · rw [List.mem_cons, ih, List.mem_cons, or_left_comm]

theorem mem_insertNames {names set : List String} {other : String} :
    other ∈ insertNames names set ↔ other ∈ names ∨ other ∈ set := by
  rw [insertNames]
  induction names generalizing set with
  | nil => simp
  | cons name names ih => rw [List.foldl_cons, ih, mem_insertName, List.mem_cons, or_left_comm,
      or_assoc]

theorem pairwise_insertName (name : String) {set : List String}
    (ordered : set.Pairwise (· < ·)) : (insertName name set).Pairwise (· < ·) := by
  induction ordered with
  | nil => exact List.pairwise_singleton _ name
  | @cons first rest below ordered ih =>
      rw [insertName]
      split
      · next before =>
          refine .cons (fun other member => ?_) (.cons below ordered)
          rcases List.mem_cons.mp member with rfl | later
          · exact before
          · exact before.trans (below other later)
      · next notBefore =>
          split
          · exact .cons below ordered
          · next different =>
              refine .cons (fun other member => ?_) ih
              rcases mem_insertName.mp member with rfl | later
              · exact lt_of_le_of_ne (not_lt.mp notBefore) (Ne.symm different)
              · exact below other later

theorem pairwise_insertNames (names : List String) {set : List String}
    (ordered : set.Pairwise (· < ·)) : (insertNames names set).Pairwise (· < ·) := by
  rw [insertNames]
  induction names generalizing set with
  | nil => exact ordered
  | cons name names ih => exact ih (pairwise_insertName name ordered)

/-- Ascending names are told by which they are. -/
theorem eq_of_ascending {names others : List String} (ascending : names.Pairwise (· < ·))
    (also : others.Pairwise (· < ·)) (same : ∀ name, name ∈ names ↔ name ∈ others) :
    names = others :=
  ascending.eq_of_mem_iff also same

/-- A set of names is told by which they are. -/
theorem insertNames_eq_of_same {names others : List String}
    (same : ∀ name, name ∈ names ↔ name ∈ others) :
    insertNames names [] = insertNames others [] := by
  refine eq_of_ascending (pairwise_insertNames names .nil) (pairwise_insertNames others .nil) ?_
  intro name
  rw [mem_insertNames, mem_insertNames, same]

end Code

open Code

/-! ## Rust -/

namespace RustCode

/-- The place of an origin in the order of statements. -/
def Origin.rank : Origin → Nat
  | .standard => 0
  | .external => 1
  | .own => 2

namespace Uses

/-- A module, and the symbols that are used of it. -/
abbrev Entry := String × List String

/-- Whether an entry is written before another: its module's origin comes first, or its module has
the lesser name of the same origin. -/
def Before (entry other : Entry) : Prop :=
  (Origin.ofModule entry.1).rank < (Origin.ofModule other.1).rank ∨
    Origin.ofModule entry.1 = Origin.ofModule other.1 ∧ entry.1 < other.1

/-- The entries that are written for some modules and symbols. -/
structure IsListOf (pairs : List (String × String)) (entries : List Entry) : Prop where
  mem_iff : ∀ module symbol,
    (∃ symbols, (module, symbols) ∈ entries ∧ symbol ∈ symbols) ↔ (module, symbol) ∈ pairs
  used : ∀ entry ∈ entries, entry.2 ≠ []
  ascending : ∀ entry ∈ entries, entry.2.Pairwise (· < ·)
  ordered : entries.Pairwise Before

def statement (entry : Entry) : Fragment := .line (useStatement entry.1 entry.2)

/-- A statement for each entry, and a blank line wherever the origin changes. -/
def written : List Entry → List Fragment
  | [] => []
  | [entry] => [statement entry]
  | entry :: next :: rest =>
    statement entry ::
      ((if Origin.ofModule entry.1 = Origin.ofModule next.1 then [] else [.blank]) ++
        written (next :: rest))

/-! ### One list for the same symbols -/

theorem Before.asymm {entry other : Entry} (before : Before entry other) :
    ¬ Before other entry := by
  rintro (rank | ⟨same, name⟩)
  · rcases before with rank' | ⟨same', -⟩
    · exact Nat.lt_asymm rank rank'
    · exact absurd (congrArg Origin.rank same'.symm) (Nat.ne_of_lt rank)
  · rcases before with rank' | ⟨-, name'⟩
    · exact absurd (congrArg Origin.rank same.symm) (Nat.ne_of_lt rank')
    · exact String.lt_asymm name name'

instance : Std.Irrefl Before := ⟨fun _ before => before.asymm before⟩

instance : Std.Antisymm Before := ⟨fun _ _ before after => absurd after before.asymm⟩

theorem Before.module_ne {entry other : Entry} (before : Before entry other) :
    entry.1 ≠ other.1 := by
  intro same
  rcases before with rank | ⟨-, name⟩
  · rw [same] at rank
    exact Nat.lt_irrefl _ rank
  · rw [same] at name
    exact String.lt_irrefl _ name

namespace IsListOf

variable {pairs others : List (String × String)} {entries list : List Entry}

/-- A module has one entry. -/
theorem eq_of_module (isList : IsListOf pairs entries) {module : String}
    {symbols known : List String} (listed : (module, symbols) ∈ entries)
    (also : (module, known) ∈ entries) : symbols = known := by
  have distinct : (entries.map Prod.fst).Nodup :=
    List.pairwise_map.mpr (isList.ordered.imp Before.module_ne)
  exact congrArg Prod.snd (List.inj_on_of_nodup_map distinct listed also rfl)

theorem subset_of_same (isList : IsListOf pairs entries) (also : IsListOf others list)
    (same : ∀ pair, pair ∈ pairs ↔ pair ∈ others) : ∀ entry ∈ entries, entry ∈ list := by
  rintro ⟨module, symbols⟩ listed
  -- The entry has a symbol, which leads to the entry of its module in the other list.
  have found {symbol : String} (inSymbols : symbol ∈ symbols) :
      ∃ known, (module, known) ∈ list ∧ symbol ∈ known :=
    (also.mem_iff module symbol).mpr
      ((same _).mp ((isList.mem_iff module symbol).mp ⟨symbols, listed, inSymbols⟩))
  obtain ⟨symbol, inSymbols⟩ := List.exists_mem_of_ne_nil _ (isList.used _ listed)
  obtain ⟨known, inList, -⟩ := found inSymbols
  have equal : symbols = known := by
    refine eq_of_ascending (isList.ascending _ listed) (also.ascending _ inList)
      fun name => ⟨fun inSymbols => ?_, fun inKnown => ?_⟩
    · obtain ⟨other, inOther, isIn⟩ := found inSymbols
      exact also.eq_of_module inOther inList ▸ isIn
    · obtain ⟨other, inOther, isIn⟩ := (isList.mem_iff module name).mpr
        ((same _).mpr ((also.mem_iff module name).mp ⟨known, inList, inKnown⟩))
      exact isList.eq_of_module inOther listed ▸ isIn
  exact equal ▸ inList

/-- The same modules and symbols are listed in one way. -/
theorem eq_of_same (isList : IsListOf pairs entries) (also : IsListOf others list)
    (same : ∀ pair, pair ∈ pairs ↔ pair ∈ others) : entries = list :=
  isList.ordered.eq_of_mem_iff also.ordered fun entry =>
    ⟨isList.subset_of_same also same entry,
      also.subset_of_same isList (fun pair => (same pair).symm) entry⟩

end IsListOf

/-! ### What is collected -/

/-- A call that adds to what a file uses. -/
inductive Call
  | add (module symbol : String)
  | addAll (module : String) (symbols : List String)

/-- The modules and symbols that a call mentions. -/
def Call.pairs : Call → List (String × String)
  | .add module symbol => [(module, symbol)]
  | .addAll module symbols => symbols.map (module, ·)

def apply (uses : Uses) : Call → Uses
  | .add module symbol => uses.add module symbol
  | .addAll module symbols => uses.addAll module symbols

/-- What a file uses after some calls. -/
def ofCalls (calls : List Call) : Uses := calls.foldl apply {}

/-- The modules and symbols that some calls mention. -/
def mentioned (calls : List Call) : List (String × String) := calls.flatMap Call.pairs

/-- What a file uses when some modules and symbols have been mentioned. Modules may have no
symbol. -/
structure Collects (pairs : List (String × String)) (uses : Uses) : Prop where
  mem_iff : ∀ module symbol,
    symbol ∈ (uses.modules.lookup module).getD [] ↔ (module, symbol) ∈ pairs
  keys : uses.modules.Pairwise (·.1 < ·.1)
  ascending : ∀ entry ∈ uses.modules, entry.2.Pairwise (· < ·)

namespace Collects

variable {pairs : List (String × String)} {uses : Uses}

theorem addAll (collects : Collects pairs uses) (module : String) (symbols : List String) :
    Collects (pairs ++ symbols.map (module, ·)) (uses.addAll module symbols) := by
  obtain ⟨mem_iff, keys, ascending⟩ := collects
  have known : ((uses.modules.lookup module).getD []).Pairwise (· < ·) := by
    cases found : uses.modules.lookup module with
    | none => exact .nil
    | some symbols => exact ascending _ (Json.mem_of_lookup_eq_some found)
  refine ⟨fun other symbol => ?_, Json.pairwise_putMember keys _ _, fun entry member => ?_⟩
  · rw [Uses.addAll, Json.lookup_putMember, List.mem_append, ← mem_iff]
    split
    · next same => simp [same, mem_insertNames, or_comm]
    · next another => simp [Ne.symm another]
  · rcases Json.mem_of_mem_putMember member with rfl | old
    · exact pairwise_insertNames symbols known
    · exact ascending entry old

theorem apply (collects : Collects pairs uses) (call : Call) :
    Collects (pairs ++ call.pairs) (uses.apply call) := by
  cases call with
  | add module symbol => exact collects.addAll module [symbol]
  | addAll module symbols => exact collects.addAll module symbols

theorem foldl_apply (collects : Collects pairs uses) (calls : List Call) :
    Collects (pairs ++ mentioned calls) (calls.foldl Uses.apply uses) := by
  induction calls generalizing pairs uses with
  | nil => rwa [mentioned, List.flatMap_nil, List.append_nil]
  | cons call calls ih =>
      have rest := ih (collects.apply call)
      rwa [List.append_assoc] at rest

end Collects

theorem collects_ofCalls (calls : List Call) : Collects (mentioned calls) (ofCalls calls) :=
  have start : Collects [] {} :=
    ⟨fun _ _ => by simp, .nil, fun _ member => absurd member List.not_mem_nil⟩
  start.foldl_apply calls

/-! ### What is written -/

/-- The entries of one origin that have a symbol. -/
def entriesOf (uses : Uses) (origin : Origin) : List Entry :=
  uses.modules.filter fun entry => !entry.2.isEmpty && Origin.ofModule entry.1 == origin

/-- All origins, in the order of their statements. -/
def origins : List Origin := [.standard, .external, .own]

theorem mem_entriesOf {uses : Uses} {origin : Origin} {entry : Entry} :
    entry ∈ uses.entriesOf origin ↔
      entry ∈ uses.modules ∧ entry.2 ≠ [] ∧ Origin.ofModule entry.1 = origin := by
  rw [entriesOf, List.mem_filter]
  simp

theorem isListOf_of_collects {pairs : List (String × String)} {uses : Uses}
    (collects : Collects pairs uses) : IsListOf pairs (origins.flatMap uses.entriesOf) := by
  have mem_flatMap {entry : Entry} :
      entry ∈ origins.flatMap uses.entriesOf ↔ entry ∈ uses.modules ∧ entry.2 ≠ [] := by
    have all (origin : Origin) : origin ∈ origins := by cases origin <;> decide
    simp only [List.mem_flatMap, mem_entriesOf]
    exact ⟨fun ⟨_, _, listed, used, _⟩ => ⟨listed, used⟩,
      fun ⟨listed, used⟩ => ⟨_, all _, listed, used, rfl⟩⟩
  have distinct : (uses.modules.map Prod.fst).Nodup :=
    List.pairwise_map.mpr (collects.keys.imp fun before => ne_of_lt before)
  refine ⟨fun module symbol => ?_, fun entry listed => (mem_flatMap.mp listed).2,
    fun entry listed => collects.ascending entry (mem_flatMap.mp listed).1, ?_⟩
  · rw [← collects.mem_iff]
    constructor
    · rintro ⟨symbols, listed, isIn⟩
      rw [Json.lookup_eq_some_of_mem distinct (mem_flatMap.mp listed).1]
      exact isIn
    · intro isIn
      cases found : uses.modules.lookup module with
      | none =>
          rw [found] at isIn
          cases isIn
      | some symbols =>
          rw [found] at isIn
          exact ⟨symbols, mem_flatMap.mpr ⟨Json.mem_of_lookup_eq_some found,
            List.ne_nil_of_mem isIn⟩, isIn⟩
  · rw [List.pairwise_flatMap]
    constructor
    · intro origin _
      refine (collects.keys.filter _).imp_of_mem fun {entry other} isEntry isOther before => ?_
      have here := (mem_entriesOf.mp isEntry).2.2
      have there := (mem_entriesOf.mp isOther).2.2
      exact .inr ⟨here.trans there.symm, before⟩
    · have ranked : origins.Pairwise fun origin other => origin.rank < other.rank := by decide
      refine ranked.imp fun {origin other} rank entry isEntry next isNext => .inl ?_
      rw [(mem_entriesOf.mp isEntry).2.2, (mem_entriesOf.mp isNext).2.2]
      exact rank

section Written

variable {origin : Origin} {entries : List Entry}
  (ofOrigin : ∀ entry ∈ entries, Origin.ofModule entry.1 = origin)
include ofOrigin

theorem written_of_origin : written entries = entries.map statement := by
  induction entries with
  | nil => rfl
  | cons entry entries ih =>
      obtain ⟨here, later⟩ := List.forall_mem_cons.mp ofOrigin
      cases entries with
      | nil => rfl
      | cons next rest =>
          rw [written, if_pos (here.trans (later next List.mem_cons_self).symm), ih later]
          rfl

theorem written_append (nonempty : entries ≠ []) {next : Entry} {rest : List Entry}
    (other : Origin.ofModule next.1 ≠ origin) :
    written (entries ++ next :: rest) =
      entries.map statement ++ .blank :: written (next :: rest) := by
  induction entries with
  | nil => exact absurd rfl nonempty
  | cons entry entries ih =>
      obtain ⟨here, later⟩ := List.forall_mem_cons.mp ofOrigin
      cases entries with
      | nil =>
          rw [List.singleton_append, written, here, if_neg (Ne.symm other)]
          rfl
      | cons second rest =>
          have behind := ih later (List.cons_ne_nil _ _)
          rw [List.cons_append] at behind
          rw [List.cons_append, List.cons_append, written,
            if_pos (here.trans (later second List.mem_cons_self).symm), behind]
          rfl

end Written

theorem written_eq_nil_iff {entries : List Entry} : written entries = [] ↔ entries = [] := by
  cases entries with
  | nil => exact iff_of_true rfl rfl
  | cons entry entries =>
      cases entries <;> exact iff_of_false (List.cons_ne_nil _ _) (List.cons_ne_nil _ _)

theorem written_flatMap (uses : Uses) {list : List Origin} (distinct : list.Nodup) :
    written (list.flatMap uses.entriesOf) =
      spaced ((list.map uses.statements).filter fun statements => !statements.isEmpty) := by
  induction list with
  | nil => rfl
  | cons origin list ih =>
      obtain ⟨absent, distinct⟩ := List.nodup_cons.mp distinct
      have ofOrigin : ∀ entry ∈ uses.entriesOf origin, Origin.ofModule entry.1 = origin :=
        fun entry listed => (mem_entriesOf.mp listed).2.2
      have others : ∀ entry ∈ list.flatMap uses.entriesOf, Origin.ofModule entry.1 ≠ origin := by
        rintro entry listed rfl
        obtain ⟨other, isOther, isEntry⟩ := List.mem_flatMap.mp listed
        exact absent ((mem_entriesOf.mp isEntry).2.2 ▸ isOther)
      have statements : uses.statements origin = (uses.entriesOf origin).map statement := rfl
      have behind := ih distinct
      rw [List.flatMap_cons, List.map_cons, List.filter_cons, statements, List.isEmpty_map]
      by_cases none : uses.entriesOf origin = []
      · rw [none]
        exact behind
      · rw [if_pos (by simpa using none)]
        -- A blank line follows exactly when another origin has statements.
        cases parts : (list.map uses.statements).filter fun statements => !statements.isEmpty with
        | nil =>
            rw [parts] at behind
            rw [written_eq_nil_iff.mp behind, List.append_nil, written_of_origin ofOrigin]
            rfl
        | cons part parts' =>
            rw [parts] at behind
            have nonempty : part ≠ [] := by
              have listed := List.mem_filter.mp (parts ▸ List.mem_cons_self : part ∈ _)
              simpa using listed.2
            have some : spaced (part :: parts') ≠ [] := by
              cases parts' with
              | nil => exact nonempty
              | cons => exact List.append_ne_nil_of_left_ne_nil nonempty _
            rw [spaced, ← behind]
            · cases rest : list.flatMap uses.entriesOf with
              | nil =>
                  rw [rest] at behind
                  exact absurd behind.symm some
              | cons next rest' =>
                  exact written_append ofOrigin none
                    (others next (rest ▸ List.mem_cons_self))
            · exact List.cons_ne_nil _ _

/-- The statements of a file are those of its entries, with blank lines between origins. -/
theorem fragments_eq_written (uses : Uses) :
    uses.fragments = written (origins.flatMap uses.entriesOf) :=
  (written_flatMap uses (by decide)).symm

theorem isEmpty_iff (uses : Uses) :
    uses.isEmpty = true ↔ origins.flatMap uses.entriesOf = [] := by
  simp only [isEmpty, List.all_eq_true, List.isEmpty_iff, List.flatMap_eq_nil_iff]
  constructor
  · refine fun unused origin _ => List.eq_nil_iff_forall_not_mem.mpr fun entry listed => ?_
    exact (mem_entriesOf.mp listed).2.1 (unused entry (mem_entriesOf.mp listed).1)
  · intro none entry listed
    by_contra used
    have all : Origin.ofModule entry.1 ∈ origins := by cases Origin.ofModule entry.1 <;> decide
    exact absurd (mem_entriesOf.mpr ⟨listed, used, rfl⟩) (none _ all ▸ List.not_mem_nil)

/-- Any entry is written as a line at least. -/
theorem source_written_eq_iff {entries : List Entry} :
    source (written entries) = "" ↔ entries = [] := by
  constructor
  · intro nothing
    cases entries with
    | nil => rfl
    | cons entry entries =>
        obtain ⟨rest, starts⟩ : ∃ rest, written (entry :: entries) = statement entry :: rest := by
          cases entries <;> exact ⟨_, rfl⟩
        obtain ⟨front, ends⟩ :=
          exists_of_chars (.spaces 4) ⟨0, useStatement entry.1 entry.2⟩
        have chars := congrArg String.toList nothing
        rw [starts, source, write, writeLines, String.toList_ofList] at chars
        have first := (List.append_eq_nil_iff.mp chars).1
        rw [ends] at first
        exact absurd first (by simp)
  · rintro rfl
    rfl

end Uses

end RustCode

/-! ## Go -/

namespace GoCode.Imports

/-- The imports of a file after some paths have been added. -/
def ofPaths (paths : List String) : Imports := paths.foldl add {}

theorem foldl_add (paths : List String) (imports : Imports) :
    paths.foldl add imports =
      ⟨insertNames (paths.filter fun path => !isExternal path) imports.standard,
        insertNames (paths.filter isExternal) imports.external⟩ := by
  induction paths generalizing imports with
  | nil => rfl
  | cons path paths ih =>
      rw [List.foldl_cons, ih, add, List.filter_cons, List.filter_cons]
      cases isExternal path <;> rfl

/-- The same paths are imported in one way. -/
theorem ofPaths_eq_of_same {paths others : List String}
    (same : ∀ path, path ∈ paths ↔ path ∈ others) : ofPaths paths = ofPaths others := by
  have filtered (holds : String → Bool) :
      insertNames (paths.filter holds) [] = insertNames (others.filter holds) [] :=
    insertNames_eq_of_same fun path => by rw [List.mem_filter, List.mem_filter, same]
  rw [ofPaths, ofPaths, foldl_add, foldl_add, filtered, filtered]

end GoCode.Imports

namespace RustCode.Uses

/-- Calls for whole modules, one of them with no symbol. -/
def modulesFirst : List Call :=
  [.addAll "http" ["Response", "Request"], .addAll "super::types" [],
    .add "std::future" "Future", .add "http" "Request"]

/-- The same, symbol by symbol. -/
def symbolsFirst : List Call :=
  [.add "std::future" "Future", .add "http" "Request", .addAll "std::future" ["Future"],
    .add "http" "Response"]

end RustCode.Uses

end RpcSchema
