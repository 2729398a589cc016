import CatalogSync.Proofs.Numeral
import CatalogSync.Proofs.Schema.Support
import CatalogSync.Proofs.Text.Cut
import CatalogSync.Text.Split

namespace CatalogSync

open Traversal

namespace HiveType

-- The characters that divide the written form of a type. A parenthesis is none of them, as it only
-- stands behind the word for decimal numbers.
def isDelimiter (c : Char) : Bool := c = ',' || c = ':' || c = '<' || c = '>'

-- The name of a member can be told from what stands around it.
def IsPlainName (name : String) : Prop := ∀ c ∈ name.toList, isDelimiter c = false

instance decidableIsPlainName (name : String) : Decidable (IsPlainName name) :=
  decidable_of_iff (name.toList.any isDelimiter = false) (by simp [IsPlainName])

section Reader

-- The types that are written as one word.
def words : List (String × HiveType) :=
  [("string", string), ("boolean", boolean), ("tinyint", tinyint), ("smallint", smallint),
    ("int", int), ("bigint", bigint), ("float", float), ("double", double), ("date", date),
    ("timestamp", timestamp), ("binary", binary)]

-- What stands behind the character that a text has to begin with.
def expect? (c : Char) : List Char → Option (List Char)
  | [] => none
  | first :: rest => if first = c then some rest else none

-- The number that decimal digits denote.
def number? (digits : List Char) : Option Nat :=
  if digits ≠ [] ∧ digits.all Char.isDigit = true then some (Nat.ofDigitChars 10 digits 0)
  else none

-- A decimal type, from its precision up to the closing parenthesis.
def readDecimal? (cs : List Char) : Option (HiveType × List Char) := do
  let (precision, rest) := Text.cutAt (· = ',') cs
  let (scale, rest) := Text.cutAt (· = ')') (← rest)
  return (decimal (← number? precision) (← Numeral.signedBy number? scale), ← rest)

section Bracket

variable (read : List Char → Option (HiveType × List Char))
  (readMembers : List Char → Option (List (String × HiveType) × List Char))

-- The type that a word with a bracket behind it begins, given how the types and the members of
-- structures inside it are read.
def readBracket? (word : String) (cs : List Char) : Option (HiveType × List Char) :=
  match word with
  | "array" => do
    let (item, rest) ← read cs
    return (array item, ← expect? '>' rest)
  | "map" => do
    let (key, rest) ← read cs
    let (value, rest) ← read (← expect? ',' rest)
    return (map key value, ← expect? '>' rest)
  | "struct" =>
    match cs with
    | '>' :: rest => some (struct [], rest)
    | cs => do
      let (members, rest) ← readMembers cs
      return (struct members, rest)
  | _ => none

-- The members of a structure, at least one, up to the closing bracket, given how the type of the
-- first one and the members behind it are read.
def readMember? (cs : List Char) : Option (List (String × HiveType) × List Char) := do
  let name := String.ofList (cs.takeWhile (!isDelimiter ·))
  let (type, rest) ← read (← expect? ':' (cs.dropWhile (!isDelimiter ·)))
  match rest with
  | '>' :: rest => return ([(name, type)], rest)
  | ',' :: rest => do
    let (members, rest) ← readMembers rest
    return ((name, type) :: members, rest)
  | _ => none

end Bracket

mutual

-- Reads a type at the beginning of a text and gives what stands behind it. Every level of types and
-- every further member takes at least a character, so the length of the text is enough fuel.
def read? : (fuel : Nat) → List Char → Option (HiveType × List Char)
  | 0, _ => none
  | fuel + 1, cs =>
    let word := String.ofList (cs.takeWhile Char.isLower)
    match cs.dropWhile Char.isLower with
    | '(' :: rest => if word = "decimal" then readDecimal? rest else none
    | '<' :: rest => readBracket? (read? fuel) (readMembers? fuel) word rest
    | rest => do return (← words.lookup word, rest)

def readMembers? : (fuel : Nat) → List Char → Option (List (String × HiveType) × List Char)
  | 0, _ => none
  | fuel + 1, cs => readMember? (read? fuel) (readMembers? fuel) cs

end

-- The type that a whole text denotes.
def ofText? (s : String) : Option HiveType :=
  match read? s.toList.length s.toList with
  | some (type, []) => some type
  | _ => none

end Reader

mutual

-- The names of all members, at every level, are plain.
def HasPlainNames : HiveType → Prop
  | array item => item.HasPlainNames
  | map key value => key.HasPlainNames ∧ value.HasPlainNames
  | struct members => HavePlainNames members
  | _ => True

def HavePlainNames : List (String × HiveType) → Prop
  | [] => True
  | (name, type) :: members =>
    IsPlainName name ∧ type.HasPlainNames ∧ HavePlainNames members

end

section RoundTrip

variable {word : String} {tail rest : List Char}

-- A word ends in front of a character that is no letter.
private theorem takeWhile_word (hword : word.toList.all Char.isLower = true)
    (htail : ∀ c ∈ tail.head?, c.isLower = false) :
    (word.toList ++ tail).takeWhile Char.isLower = word.toList := by
  rw [Text.takeWhile_append_of_head htail, List.takeWhile_eq_self_iff]
  exact List.all_eq_true.mp hword

private theorem dropWhile_word (hword : word.toList.all Char.isLower = true)
    (htail : ∀ c ∈ tail.head?, c.isLower = false) :
    (word.toList ++ tail).dropWhile Char.isLower = tail := by
  rw [Text.dropWhile_append_of_head htail, List.dropWhile_eq_nil_iff.mpr
    (List.all_eq_true.mp hword), List.nil_append]

-- What may stand behind a type: nothing, or what goes on with the type around it.
def IsClosing (rest : List Char) : Prop := ∀ c ∈ rest.head?, c = ',' ∨ c = '>'

theorem isClosing_nil : IsClosing [] := nofun

theorem isClosing_cons {c : Char} (h : c = ',' ∨ c = '>') : IsClosing (c :: rest) := by
  rintro d ⟨⟩
  exact h

theorem read?_word {type : HiveType} (hlookup : words.lookup word = some type)
    (hword : word.toList.all Char.isLower = true) (hrest : IsClosing rest) (fuel : Nat) :
    read? (fuel + 1) (word.toList ++ rest) = some (type, rest) := by
  have hlower : ∀ c ∈ rest.head?, c.isLower = false := by
    intro c hc
    rcases hrest c hc with rfl | rfl <;> rfl
  rw [read?, takeWhile_word hword hlower, dropWhile_word hword hlower, String.ofList_toList,
    hlookup]
  cases rest with
  | nil => rfl
  | cons c rest => rcases hrest c rfl with rfl | rfl <;> rfl

theorem number?_toDigits (n : Nat) : number? (Nat.toDigits 10 n) = some n := by
  have hdigits : (Nat.toDigits 10 n).all Char.isDigit = true :=
    List.all_eq_true.mpr fun c hc => Numeral.isDigit_of_mem_toDigits hc
  rw [number?, if_pos ⟨Nat.toDigits_ne_nil, hdigits⟩,
    Nat.ofDigitChars_toDigits (by decide) (by decide)]

theorem readDecimal?_text (precision : Nat) (scale : Int) (rest : List Char) :
    readDecimal? ((toString precision).toList ++ ',' :: ((toString scale).toList ++ ')' :: rest)) =
      some (decimal precision scale, rest) := by
  have hprecision : (toString precision).toList = Nat.toDigits 10 precision := Nat.toList_repr
  have hcomma : ∀ c ∈ Nat.toDigits 10 precision, decide (c = ',') = false := by
    rintro c hc
    refine decide_eq_false ?_
    rintro rfl
    exact absurd (Numeral.isDigit_of_mem_toDigits hc) (by decide)
  have hparenthesis : ∀ c ∈ (toString scale).toList, decide (c = ')') = false := by
    rintro c hc
    refine decide_eq_false ?_
    rintro rfl
    exact absurd (Numeral.isDigit_or_minus_of_mem_toString hc) (by decide)
  rw [readDecimal?, hprecision, Text.cutAt_append_cons hcomma (by rfl)]
  dsimp only [bind, Option.bind]
  rw [Text.cutAt_append_cons hparenthesis (by rfl)]
  dsimp only
  rw [number?_toDigits, Numeral.signedBy_toString number?_toDigits]
  rfl

theorem read?_bracket (hword : word.toList.all Char.isLower = true) (fuel : Nat) :
    read? (fuel + 1) (word.toList ++ '<' :: rest) =
      readBracket? (read? fuel) (readMembers? fuel) word rest := by
  have hbracket : ∀ c ∈ ('<' :: rest).head?, c.isLower = false := by
    rintro c ⟨⟩
    rfl
  rw [read?, takeWhile_word hword hbracket, dropWhile_word hword hbracket, String.ofList_toList]
  rfl

theorem read?_decimal (precision : Nat) (scale : Int) (fuel : Nat) :
    read? (fuel + 1) ((decimal precision scale).text.toList ++ rest) =
      some (decimal precision scale, rest) := by
  have htext : (decimal precision scale).text.toList ++ rest = "decimal".toList ++
      '(' :: ((toString precision).toList ++ ',' :: ((toString scale).toList ++ ')' :: rest)) := by
    simp [text]
  have hparenthesis : ∀ c ∈ ('(' :: ((toString precision).toList ++
      ',' :: ((toString scale).toList ++ ')' :: rest))).head?, c.isLower = false := by
    rintro c ⟨⟩
    rfl
  rw [htext, read?, takeWhile_word (by decide +kernel) hparenthesis,
    dropWhile_word (by decide +kernel) hparenthesis, String.ofList_toList]
  exact readDecimal?_text precision scale rest

-- Every type is written with at least one character.
private theorem text_length_pos (type : HiveType) : 0 < type.text.toList.length := by
  cases type <;> simp [text]

-- The written form of some members with commas between them.
def membersText (members : List (String × HiveType)) : List Char :=
  (",".intercalate (memberTexts members)).toList

-- What stands behind the first member.
def moreText : List (String × HiveType) → List Char
  | [] => []
  | member :: members => ',' :: membersText (member :: members)

theorem membersText_cons (name : String) (type : HiveType) (members : List (String × HiveType)) :
    membersText ((name, type) :: members) =
      name.toList ++ ':' :: (type.text.toList ++ moreText members) := by
  cases members with
  | nil => simp [membersText, memberTexts, moreText]
  | cons next members =>
      simp [membersText, memberTexts, moreText, String.intercalate_cons_cons]

theorem isClosing_moreText (members : List (String × HiveType)) (rest : List Char) :
    IsClosing (moreText members ++ '>' :: rest) := by
  cases members with
  | nil => exact isClosing_cons (.inr rfl)
  | cons next members => exact isClosing_cons (.inl rfl)

section Written

variable (rest : List Char)

theorem array_text (item : HiveType) : (array item).text.toList ++ rest =
    "array".toList ++ '<' :: (item.text.toList ++ '>' :: rest) := by
  simp [text]

theorem map_text (key value : HiveType) : (map key value).text.toList ++ rest =
    "map".toList ++ '<' :: (key.text.toList ++ ',' :: (value.text.toList ++ '>' :: rest)) := by
  simp [text]

theorem struct_text (members : List (String × HiveType)) : (struct members).text.toList ++ rest =
    "struct".toList ++ '<' :: (membersText members ++ '>' :: rest) := by
  simp [text, membersText]

end Written

-- A name ends in front of the colon.
private theorem takeWhile_name {name : String} (hname : IsPlainName name) (cs : List Char) :
    (name.toList ++ ':' :: cs).takeWhile (!isDelimiter ·) = name.toList := by
  rw [List.takeWhile_append_of_pos fun c hc => by rw [hname c hc]; rfl]
  exact List.append_nil _

private theorem dropWhile_name {name : String} (hname : IsPlainName name) (cs : List Char) :
    (name.toList ++ ':' :: cs).dropWhile (!isDelimiter ·) = ':' :: cs := by
  rw [List.dropWhile_append_of_pos fun c hc => by rw [hname c hc]; rfl]
  rfl

-- A structure with members is told from one without by what stands behind the opening bracket.
private theorem membersText_ne {name : String} (hname : IsPlainName name) (type : HiveType)
    (members : List (String × HiveType)) (rest other : List Char) :
    membersText ((name, type) :: members) ++ '>' :: rest ≠ '>' :: other := by
  intro h
  have hdrop := congrArg (List.dropWhile (!isDelimiter ·)) h
  rw [membersText_cons, List.append_assoc, List.cons_append, dropWhile_name hname] at hdrop
  exact absurd (List.cons.inj hdrop).1 (by decide)

mutual

-- A type is read back from what it is written as, whatever closes it.
theorem read?_text (type : HiveType) (h : type.HasPlainNames) (fuel : Nat)
    (hfuel : type.text.toList.length ≤ fuel) (rest : List Char) (hrest : IsClosing rest) :
    read? fuel (type.text.toList ++ rest) = some (type, rest) := by
  obtain _ | fuel := fuel
  · exact absurd (text_length_pos type) (by omega)
  cases type with
  | string | boolean | tinyint | smallint | int | bigint | float | double | date | timestamp
  | binary => exact read?_word rfl (by decide +kernel) hrest fuel
  | decimal precision scale => exact read?_decimal precision scale fuel
  | array item =>
      have hlength := congrArg List.length (array_text [] item)
      simp only [List.length_append, List.length_cons, List.length_nil] at hlength
      have hitem := read?_text item h fuel (by omega)
      rw [array_text, read?_bracket (by decide +kernel)]
      simp only [readBracket?, hitem _ (isClosing_cons (.inr rfl))]
      rfl
  | map key value =>
      have hlength := congrArg List.length (map_text [] key value)
      simp only [List.length_append, List.length_cons, List.length_nil] at hlength
      have hkey := read?_text key h.1 fuel (by omega)
      have hvalue := read?_text value h.2 fuel (by omega)
      rw [map_text, read?_bracket (by decide +kernel)]
      simp only [readBracket?, hkey _ (isClosing_cons (.inl rfl)), bind, Option.bind, expect?,
        if_true, hvalue _ (isClosing_cons (.inr rfl))]
      rfl
  | struct members =>
      have hlength := congrArg List.length (struct_text [] members)
      simp only [List.length_append, List.length_cons, List.length_nil] at hlength
      rw [struct_text, read?_bracket (by decide +kernel)]
      cases members with
      | nil => rfl
      | cons member members =>
          have hmembers := readMembers?_text (member :: members) (by simp) h fuel (by omega) rest
          have hne := membersText_ne h.1 member.2 members rest
          rw [readBracket?, hmembers]
          · rfl
          · exact hne

theorem readMembers?_text (members : List (String × HiveType)) (hne : members ≠ [])
    (h : HavePlainNames members) (fuel : Nat) (hfuel : (membersText members).length ≤ fuel)
    (rest : List Char) :
    readMembers? fuel (membersText members ++ '>' :: rest) = some (members, rest) := by
  obtain _ | ⟨⟨name, type⟩, members⟩ := members
  · exact absurd rfl hne
  obtain ⟨hname, htype, hmembers⟩ := h
  rw [membersText_cons] at hfuel ⊢
  simp only [List.length_append, List.length_cons] at hfuel
  obtain _ | fuel := fuel
  · exact absurd hfuel (by omega)
  have hread := read?_text type htype fuel (by omega) _ (isClosing_moreText members rest)
  rw [List.append_assoc, List.cons_append, List.append_assoc, readMembers?, readMember?,
    takeWhile_name hname, dropWhile_name hname, String.ofList_toList]
  simp only [expect?, if_true, bind, Option.bind, hread]
  cases members with
  | nil => rfl
  | cons next members =>
      simp only [moreText, List.length_cons] at hfuel
      have hmore := readMembers?_text (next :: members) (by simp) hmembers fuel (by omega) rest
      simp only [moreText, List.cons_append, hmore]
      rfl

end

-- No type with plain names is written like another one.
theorem ofText?_text (type : HiveType) (h : type.HasPlainNames) :
    ofText? type.text = some type := by
  have hread := read?_text type h _ le_rfl [] isClosing_nil
  rw [List.append_nil] at hread
  rw [ofText?, hread]

end RoundTrip

end HiveType

namespace StorageType

-- The names of the members of all structures that are visited are plain.
def HasPlainNames (type : StorageType) : Prop :=
  ∀ members, struct members ∈ type.visited → ∀ member ∈ members, HiveType.IsPlainName member.1.name

end StorageType

namespace HiveType

open StorageType (visitedMembers)

section Counterpart

variable {timestamps : Bool}

mutual

-- The counterpart of a type has no other names than the type.
theorem hasPlainNames_ofStorage (type : StorageType) (h : type.HasPlainNames) {hive : HiveType}
    (hhive : ofStorage timestamps type = .ok hive) : hive.HasPlainNames := by
  cases type with
  | text layout | binary layout => cases layout <;> cases hhive <;> trivial
  | signed width | unsigned width => cases width <;> cases hhive <;> trivial
  | list layout label item =>
      cases layout with
      | view | largeView => cases hhive
      | offsets | largeOffsets | fixed size =>
          obtain ⟨found, hfound, ⟨⟩⟩ := bind_eq_ok_iff.mp hhive
          have hitem := hasPlainNames_ofStorage item
            (fun members hmem => h members (List.mem_cons_of_mem _ hmem)) hfound
          exact hitem
  | map form key value =>
      obtain ⟨first, hfirst, hrest⟩ := bind_eq_ok_iff.mp hhive
      obtain ⟨second, hsecond, ⟨⟩⟩ := bind_eq_ok_iff.mp hrest
      refine ⟨hasPlainNames_ofStorage key (fun members hmem => h members ?_) hfirst,
        hasPlainNames_ofStorage value (fun members hmem => h members ?_) hsecond⟩
      · exact List.mem_cons_of_mem _ (List.mem_append_left _ hmem)
      · exact List.mem_cons_of_mem _ (List.mem_append_right _ hmem)
  | struct members =>
      obtain ⟨found, hfound, ⟨⟩⟩ := bind_eq_ok_iff.mp hhive
      exact havePlainNames_ofMembers members (h members List.mem_cons_self)
        (fun inner hmem => h inner (List.mem_cons_of_mem _ hmem)) hfound
  | dictionary isOrdered index value =>
      exact hasPlainNames_ofStorage value
        (fun members hmem => h members (List.mem_cons_of_mem _ hmem)) hhive
  | timestamp unit zone => cases timestamps <;> cases hhive <;> trivial
  | _ => cases hhive <;> trivial

theorem havePlainNames_ofMembers (members : List (Label × StorageType))
    (hnames : ∀ member ∈ members, IsPlainName member.1.name)
    (h : ∀ inner, .struct inner ∈ visitedMembers members →
      ∀ member ∈ inner, IsPlainName member.1.name)
    {hives : List (String × HiveType)} (hhives : ofMembers timestamps members = .ok hives) :
    HavePlainNames hives := by
  cases members with
  | nil =>
      cases hhives
      trivial
  | cons member members =>
      obtain ⟨first, hfirst, hrest⟩ := bind_eq_ok_iff.mp hhives
      obtain ⟨others, hothers, ⟨⟩⟩ := bind_eq_ok_iff.mp hrest
      refine ⟨hnames member List.mem_cons_self,
        hasPlainNames_ofStorage member.2 (fun inner hmem => h inner ?_) hfirst,
        havePlainNames_ofMembers members (fun other hmem => hnames other ?_)
          (fun inner hmem => h inner ?_) hothers⟩
      · exact List.mem_append_left _ hmem
      · exact List.mem_cons_of_mem _ hmem
      · exact List.mem_append_right _ hmem

end

end Counterpart

-- The written form of a counterpart tells which type it is: it is read back, and two counterparts
-- are written alike only if they are the same.
theorem text_ofStorage_unambiguous (timestamps otherTimestamps : Bool)
    {type other : StorageType} {hive otherHive : HiveType} (hplain : type.HasPlainNames)
    (hother : other.HasPlainNames)
    (hhive : ofStorage timestamps type = .ok hive)
    (hotherHive : ofStorage otherTimestamps other = .ok otherHive) :
    (hive.text = otherHive.text ↔ hive = otherHive) ∧ ofText? hive.text = some hive := by
  have hread := ofText?_text hive (hasPlainNames_ofStorage type hplain hhive)
  have hotherRead := ofText?_text otherHive (hasPlainNames_ofStorage other hother hotherHive)
  refine ⟨⟨fun htext => ?_, congrArg text⟩, hread⟩
  rw [htext, hotherRead] at hread
  exact (Option.some.inj hread).symm

-- A name may hold parentheses and blanks, and a structure may be empty.
theorem text_ofStorage_unambiguous_nested :
    let empty : StorageType := .list .largeOffsets { name := "item" } (.struct [])
    let members : List (Label × StorageType) := [({ name := "rate (net)" }, .decimal 128 10 (-2)),
      ({ name := "tags", isNullable := false }, .map {} (.text .offsets) empty)]
    let type : StorageType := .struct members
    let other : StorageType := .list .offsets { name := "element" } (.timestamp .second none)
    ∃ hive otherHive, ofStorage false type = .ok hive ∧ ofStorage true other = .ok otherHive ∧
      hive.text = "struct<rate (net):decimal(10,-2),tags:map<string,array<struct<>>>>" ∧
      ofText? hive.text = some hive ∧ hive.text ≠ otherHive.text := by
  intro empty members type other
  have hplain : type.HasPlainNames := by
    intro inner hmem
    simp only [type, members, empty, StorageType.visited, visitedMembers, ListLayout.isView] at hmem
    obtain ⟨rfl⟩ | ⟨rfl⟩ : inner = members ∨ inner = [] := by
      simpa using hmem
    · decide +kernel
    · nofun
  have hother : other.HasPlainNames := by
    intro members hmem
    simp [other, StorageType.visited, ListLayout.isView] at hmem
  have hhive := text_ofStorage_unambiguous false true hplain hother rfl rfl
  exact ⟨_, _, rfl, rfl, by decide +kernel, hhive.2, fun htext => nomatch hhive.1.mp htext⟩

end HiveType

end CatalogSync
