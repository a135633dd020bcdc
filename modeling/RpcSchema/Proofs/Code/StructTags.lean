import RpcSchema.Proofs.Code.Literals

/-!
# Tags of struct fields

The tag of a Go field is a raw string of keys with quoted values. A value is looked up by its key
from the front on; where the tag has another form, nothing more of it is read.
-/

namespace RpcSchema.GoCode

open Code

/-! ## Raw strings -/

/-- What the raw string at the end of a row says; it has no carriage returns. -/
def rawText? (row : String) : Option (List Char) :=
  match row.toList.dropWhile (· != '\x60') with
  | [] => none
  | _ :: rest =>
    if rest.dropWhile (· != '\x60') = ['\x60'] then
      some ((rest.takeWhile (· != '\x60')).filter (· != '\r'))
    else none

theorem rawText?_eq {before text : String} (absentBefore : '\x60' ∉ before.toList)
    (absent : '\x60' ∉ text.toList) :
    rawText? (before ++ "`" ++ text ++ "`") = some (text.toList.filter (· != '\r')) := by
  have others {chars : List Char} (absent : '\x60' ∉ chars) : ∀ c ∈ chars, (c != '\x60') = true :=
    fun c member => by simpa using fun same : c = '\x60' => absent (same ▸ member)
  have spelled : (before ++ "`" ++ text ++ "`").toList =
      before.toList ++ '\x60' :: (text.toList ++ ['\x60']) := by simp
  have opened : ('\x60' :: (text.toList ++ ['\x60'])).dropWhile (· != '\x60') =
      '\x60' :: (text.toList ++ ['\x60']) := rfl
  rw [rawText?, spelled, List.dropWhile_append_of_pos (others absentBefore), opened]
  simp only
  rw [List.dropWhile_append_of_pos (others absent), List.takeWhile_append_of_pos (others absent)]
  simp

/-! ## Keys and values -/

/-- A character of a key: no space and no control character, neither a colon nor a quote. -/
def isTagKeyChar (c : Char) : Bool := 0x20 < c.toNat && c.toNat != 0x7f && c != ':' && c != '"'

/-- Whether a text can stand as a key in a tag. -/
def isTagKey (text : String) : Bool := !text.isEmpty && text.toList.all isTagKeyChar

/-- Where a reader of a tag is. -/
inductive TagPlace
  | between
  | key (begun : List Char)
  | colon (key : List Char)
  | value (key begun : List Char)
  /-- Behind a backslash in a value. -/
  | escape (key begun : List Char)
  /-- Behind what is no key with a value. -/
  | stopped

structure TagReader where
  place : TagPlace
  /-- The keys with their values, as these are written between their quotes. -/
  pairs : List (List Char × List Char)

namespace TagReader

def goTo (reader : TagReader) (place : TagPlace) : TagReader := { reader with place := place }

def step (reader : TagReader) (c : Char) : TagReader :=
  match reader.place with
  | .between =>
    if c = ' ' then reader
    else reader.goTo (if isTagKeyChar c then .key [c] else .stopped)
  | .key begun =>
    reader.goTo (if isTagKeyChar c then .key (begun ++ [c]) else if c = ':' then .colon begun
      else .stopped)
  | .colon key => reader.goTo (if c = '"' then .value key [] else .stopped)
  | .value key begun =>
    if c = '"' then ⟨.between, reader.pairs ++ [(key, begun)]⟩
    else reader.goTo (if c = '\\' then .escape key (begun ++ [c]) else .value key (begun ++ [c]))
  | .escape key begun => reader.goTo (.value key (begun ++ [c]))
  | .stopped => reader

end TagReader

/-- The value under a key in a tag, as it is written between its quotes. -/
def tagValue? (key : String) (tag : List Char) : Option (List Char) :=
  (tag.foldl TagReader.step ⟨.between, []⟩).pairs.lookup key.toList

/-! ## Reading on -/

namespace TagReader

/-- What has been read stays. -/
theorem prefix_pairs_step (reader : TagReader) (c : Char) :
    reader.pairs <+: (reader.step c).pairs := by
  rw [step]
  split
  · split
    · exact List.prefix_rfl
    · exact List.prefix_rfl
  · exact List.prefix_rfl
  · exact List.prefix_rfl
  · split
    · exact List.prefix_append _ _
    · exact List.prefix_rfl
  · exact List.prefix_rfl
  · exact List.prefix_rfl

theorem prefix_pairs_foldl (reader : TagReader) (chars : List Char) :
    reader.pairs <+: (chars.foldl step reader).pairs := by
  induction chars generalizing reader with
  | nil => exact List.prefix_rfl
  | cons c rest ih => exact (reader.prefix_pairs_step c).trans (ih (reader.step c))

section Steps

variable {pairs : List (List Char × List Char)} {begun : List Char} {c : Char}

theorem step_between (noSpace : c ≠ ' ') (inKey : isTagKeyChar c) :
    step ⟨.between, pairs⟩ c = ⟨.key [c], pairs⟩ := by
  simp [step, goTo, noSpace, inKey]

theorem step_key (inKey : isTagKeyChar c) :
    step ⟨.key begun, pairs⟩ c = ⟨.key (begun ++ [c]), pairs⟩ := by
  simp [step, goTo, inKey]

theorem step_value (plain : isPlain c) (key : List Char) :
    step ⟨.value key begun, pairs⟩ c = ⟨.value key (begun ++ [c]), pairs⟩ := by
  rw [isPlain, Bool.and_eq_true, bne_iff_ne, bne_iff_ne] at plain
  simp [step, goTo, plain]

end Steps

variable {pairs : List (List Char × List Char)}

theorem foldl_key {chars : List Char} (all : chars.all isTagKeyChar) (begun : List Char) :
    chars.foldl step ⟨.key begun, pairs⟩ = ⟨.key (begun ++ chars), pairs⟩ := by
  induction chars generalizing begun with
  | nil => rw [List.append_nil, List.foldl_nil]
  | cons c rest ih =>
      rw [List.all_cons, Bool.and_eq_true] at all
      rw [List.foldl_cons, step_key all.1, ih all.2, List.append_assoc, List.singleton_append]

theorem foldl_value {chars : List Char} (plain : chars.all isPlain) (key begun : List Char) :
    chars.foldl step ⟨.value key begun, pairs⟩ = ⟨.value key (begun ++ chars), pairs⟩ := by
  induction chars generalizing begun with
  | nil => rw [List.append_nil, List.foldl_nil]
  | cons c rest ih =>
      rw [List.all_cons, Bool.and_eq_true] at plain
      rw [List.foldl_cons, step_value plain.1, ih plain.2, List.append_assoc, List.singleton_append]

/-- A key with its value is read where one can start. -/
theorem foldl_pair {key value : String} (isKey : isTagKey key) (plain : value.toList.all isPlain) :
    (key ++ ":\"" ++ value ++ "\"").toList.foldl step ⟨.between, pairs⟩ =
      ⟨.between, pairs ++ [(key.toList, value.toList)]⟩ := by
  have spelled : (key ++ ":\"" ++ value ++ "\"").toList =
      key.toList ++ ':' :: '"' :: (value.toList ++ ['"']) := by simp
  rw [spelled]
  cases begins : key.toList with
  | nil => simp [isTagKey, String.toList_eq_nil_iff.mp begins] at isKey
  | cons c rest =>
      rw [isTagKey, begins, List.all_cons, Bool.and_eq_true, Bool.and_eq_true] at isKey
      obtain ⟨-, first, all⟩ := isKey
      have noSpace : c ≠ ' ' := by
        rintro rfl
        cases first
      rw [List.cons_append, List.foldl_cons, step_between noSpace first, List.foldl_append,
        foldl_key all, List.singleton_append]
      change ((value.toList ++ ['"']).foldl step ⟨.value (c :: rest) [], pairs⟩) = _
      rw [List.foldl_append, foldl_value plain, List.nil_append]
      rfl

end TagReader

/-! ## One value under many keys -/

/-- A tag with one value under some keys, as it is read from a raw string. -/
def tagText (value : String) (keys : List String) : List Char :=
  (" ".intercalate (keys.map fun key => key ++ ":\"" ++ value ++ "\"")).toList.filter (· != '\r')

theorem tagText_cons (value key : String) (keys : List String) :
    ∃ rest, tagText value (key :: keys) =
        (key ++ ":\"" ++ value ++ "\"").toList.filter (· != '\r') ++ rest ∧
      (keys ≠ [] → rest = ' ' :: tagText value keys) := by
  cases keys with
  | nil => exact ⟨[], by simp [tagText], fun nonempty => absurd rfl nonempty⟩
  | cons next keys =>
      refine ⟨' ' :: tagText value (next :: keys), ?_, fun _ => rfl⟩
      rw [tagText, tagText, List.map_cons, List.map_cons, String.intercalate_cons_cons,
        String.toList_append, String.toList_append, List.filter_append, List.filter_append,
        List.append_assoc]
      rfl

section Value

variable {value : String} (plain : value.toList.all isPlain) (single : '\r' ∉ value.toList)
include single

theorem filter_pair {key : String} (isKey : isTagKey key) :
    (key ++ ":\"" ++ value ++ "\"").toList.filter (· != '\r') =
      (key ++ ":\"" ++ value ++ "\"").toList := by
  have inKey : '\r' ∉ key.toList := fun member => by
    rw [isTagKey, Bool.and_eq_true] at isKey
    cases List.all_eq_true.mp isKey.2 '\r' member
  refine List.filter_eq_self.mpr fun c member => bne_iff_ne.mpr ?_
  rintro rfl
  simp [inKey, single] at member

include plain

theorem lookup_foldl_tagText {key : String} (isKey : isTagKey key) {keys : List String}
    (listed : key ∈ keys) (inFront : ∀ other ∈ keys.takeWhile (· != key), isTagKey other)
    {pairs : List (List Char × List Char)} (absent : pairs.lookup key.toList = none) :
    ((tagText value keys).foldl TagReader.step ⟨.between, pairs⟩).pairs.lookup key.toList =
      some value.toList := by
  induction keys generalizing pairs with
  | nil => exact absurd listed List.not_mem_nil
  | cons first keys ih =>
      obtain ⟨rest, spelled, behind⟩ := tagText_cons value first keys
      rw [spelled, List.foldl_append]
      by_cases same : first = key
      · subst same
        rw [filter_pair single isKey, TagReader.foldl_pair isKey plain]
        -- Whatever follows, what is found has been read.
        refine (TagReader.prefix_pairs_foldl _ rest).lookup_eq_some ?_
        rw [List.lookup_append, absent, Option.none_or, List.lookup_cons_self]
      · have listed : key ∈ keys := (List.mem_cons.mp listed).resolve_left (Ne.symm same)
        have passed : (first != key) = true := bne_iff_ne.mpr same
        rw [List.takeWhile_cons, if_pos passed, List.forall_mem_cons] at inFront
        obtain ⟨isFirstKey, inFront⟩ := inFront
        rw [filter_pair single isFirstKey, TagReader.foldl_pair isFirstKey plain,
          behind (List.ne_nil_of_mem listed), List.foldl_cons]
        refine ih listed inFront ?_
        have other : (key.toList == first.toList) = false :=
          beq_eq_false_iff_ne.mpr fun spelled => same (String.toList_inj.mp spelled).symm
        rw [List.lookup_append, absent, Option.none_or, List.lookup_cons, other, List.lookup_nil]

/-- The value is found under a key if all that is in front of the key has the form of a key. -/
theorem tagValue?_tagText {key : String} (isKey : isTagKey key) {keys : List String}
    (listed : key ∈ keys) (inFront : ∀ other ∈ keys.takeWhile (· != key), isTagKey other) :
    tagValue? key (tagText value keys) = some value.toList :=
  lookup_foldl_tagText plain single isKey listed inFront rfl

end Value

end RpcSchema.GoCode
