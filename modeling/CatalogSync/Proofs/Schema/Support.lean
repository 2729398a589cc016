import CatalogSync.Proofs.Traversal
import CatalogSync.Schema.Columns

namespace CatalogSync

open Traversal

-- Whether the items of a list are reached through a view of them.
def ListLayout.isView : ListLayout → Bool
  | view | largeView => true
  | _ => false

namespace StorageType

-- Whether types of this kind have no counterpart in the catalog, whatever their parts are.
def isUnsupported : StorageType → Bool
  | text .view | binary .view | duration _ | monthDayNano | extension _ => true
  | runEndEncoded _ _ | union _ _ => true
  | list layout _ _ => layout.isView
  | _ => false

def isTimestamp : StorageType → Bool
  | timestamp _ _ => true
  | _ => false

mutual

-- A type and the types inside it that need a counterpart, from left to right. The indices of a
-- dictionary need none, and nothing is asked of the parts of a type that has none itself.
def visited : StorageType → List StorageType
  | list layout label item =>
    list layout label item :: if layout.isView then [] else item.visited
  | map form key value => map form key value :: (key.visited ++ value.visited)
  | struct members => struct members :: visitedMembers members
  | dictionary isOrdered index value => dictionary isOrdered index value :: value.visited
  | type => [type]

def visitedMembers : List (Label × StorageType) → List StorageType
  | [] => []
  | (_, type) :: members => type.visited ++ visitedMembers members

end

mutual

-- The type with a whole number of 64 bits in the place of every timestamp that is visited.
def withoutTimestamps : StorageType → StorageType
  | timestamp _ _ => signed .w64
  | list layout label item =>
    list layout label (if layout.isView then item else item.withoutTimestamps)
  | map form key value => map form key.withoutTimestamps value.withoutTimestamps
  | struct members => struct (membersWithoutTimestamps members)
  | dictionary isOrdered index value => dictionary isOrdered index value.withoutTimestamps
  | type => type

def membersWithoutTimestamps : List (Label × StorageType) → List (Label × StorageType)
  | [] => []
  | (label, type) :: members => (label, type.withoutTimestamps) :: membersWithoutTimestamps members

end

end StorageType

namespace HiveType

mutual

-- The type with a whole number of 64 bits in the place of every timestamp.
def withoutTimestamps : HiveType → HiveType
  | timestamp => bigint
  | array item => array item.withoutTimestamps
  | map key value => map key.withoutTimestamps value.withoutTimestamps
  | struct members => struct (membersWithoutTimestamps members)
  | type => type

def membersWithoutTimestamps : List (String × HiveType) → List (String × HiveType)
  | [] => []
  | (name, type) :: members => (name, type.withoutTimestamps) :: membersWithoutTimestamps members

end

section Failure

open StorageType (visited visitedMembers isUnsupported)

variable (timestamps : Bool)

mutual

-- A type fails on the first of the types inside it that has no counterpart.
theorem error?_ofStorage (type : StorageType) :
    error? (ofStorage timestamps type) = type.visited.find? isUnsupported := by
  cases type with
  | text layout | binary layout => cases layout <;> rfl
  | list layout label item =>
      have hitem := error?_ofStorage item
      cases layout with
      | view | largeView => rfl
      | offsets | largeOffsets | fixed size =>
          simp only [ofStorage, visited, List.find?_cons, isUnsupported, ListLayout.isView,
            Bool.false_eq_true, if_false, ← hitem]
          cases ofStorage timestamps item <;> rfl
  | map form key value =>
      have hkey := error?_ofStorage key
      have hvalue := error?_ofStorage value
      simp only [ofStorage, visited, List.find?_cons, isUnsupported, List.find?_append, ← hkey,
        ← hvalue]
      cases ofStorage timestamps key <;> cases ofStorage timestamps value <;> rfl
  | struct members =>
      have hmembers := error?_ofMembers members
      simp only [ofStorage, visited, List.find?_cons, isUnsupported, ← hmembers]
      cases ofMembers timestamps members <;> rfl
  | dictionary isOrdered index value =>
      have hvalue := error?_ofStorage value
      simp only [ofStorage, visited, List.find?_cons, isUnsupported, ← hvalue]
  | _ => rfl

theorem error?_ofMembers (members : List (Label × StorageType)) :
    error? (ofMembers timestamps members) = (visitedMembers members).find? isUnsupported := by
  cases members with
  | nil => rfl
  | cons member members =>
      obtain ⟨label, type⟩ := member
      have htype := error?_ofStorage type
      have hmembers := error?_ofMembers members
      rw [ofMembers, visitedMembers, List.find?_append, ← htype, ← hmembers]
      cases ofStorage timestamps type <;> cases ofMembers timestamps members <;> rfl

end

end Failure

section Timestamps

mutual

-- Without support for timestamps a type becomes what it becomes with it, with whole numbers in the
-- place of timestamps.
theorem ofStorage_false (type : StorageType) :
    ofStorage false type = (ofStorage true type).map withoutTimestamps := by
  cases type with
  | text layout | binary layout => cases layout <;> rfl
  | signed width | unsigned width => cases width <;> rfl
  | list layout label item =>
      have hitem := ofStorage_false item
      cases layout with
      | view | largeView => rfl
      | offsets | largeOffsets | fixed size =>
          rw [ofStorage, ofStorage, hitem]
          cases ofStorage true item <;> rfl
  | map form key value =>
      have hkey := ofStorage_false key
      have hvalue := ofStorage_false value
      rw [ofStorage, ofStorage, hkey, hvalue]
      cases ofStorage true key <;> cases ofStorage true value <;> rfl
  | struct members =>
      have hmembers := ofMembers_false members
      rw [ofStorage, ofStorage, hmembers]
      cases ofMembers true members <;> rfl
  | dictionary isOrdered index value => exact ofStorage_false value
  | _ => rfl

theorem ofMembers_false (members : List (Label × StorageType)) :
    ofMembers false members = (ofMembers true members).map membersWithoutTimestamps := by
  cases members with
  | nil => rfl
  | cons member members =>
      obtain ⟨label, type⟩ := member
      have htype := ofStorage_false type
      have hmembers := ofMembers_false members
      rw [ofMembers, ofMembers, htype, hmembers]
      cases ofStorage true type <;> cases ofMembers true members <;> rfl

end

variable (timestamps : Bool)

mutual

-- Once its timestamps are whole numbers, it does not matter to a type whether timestamps are
-- supported.
theorem ofStorage_withoutTimestamps (type : StorageType) :
    ofStorage timestamps type.withoutTimestamps = ofStorage false type := by
  cases type with
  | text layout | binary layout => cases layout <;> rfl
  | list layout label item =>
      have hitem := ofStorage_withoutTimestamps item
      cases layout with
      | view | largeView => rfl
      | offsets | largeOffsets | fixed size =>
          simp only [StorageType.withoutTimestamps, ListLayout.isView, Bool.false_eq_true, if_false,
            ofStorage, hitem]
  | map form key value =>
      have hkey := ofStorage_withoutTimestamps key
      have hvalue := ofStorage_withoutTimestamps value
      rw [StorageType.withoutTimestamps, ofStorage, ofStorage, hkey, hvalue]
  | struct members =>
      have hmembers := ofMembers_withoutTimestamps members
      rw [StorageType.withoutTimestamps, ofStorage, ofStorage, hmembers]
  | dictionary isOrdered index value => exact ofStorage_withoutTimestamps value
  | _ => rfl

theorem ofMembers_withoutTimestamps (members : List (Label × StorageType)) :
    ofMembers timestamps (StorageType.membersWithoutTimestamps members) =
      ofMembers false members := by
  cases members with
  | nil => rfl
  | cons member members =>
      obtain ⟨label, type⟩ := member
      have htype := ofStorage_withoutTimestamps type
      have hmembers := ofMembers_withoutTimestamps members
      rw [StorageType.membersWithoutTimestamps, ofMembers, ofMembers, htype, hmembers]

end

end Timestamps

end HiveType

namespace StorageType

mutual

-- A type in which no timestamp is visited is left as it is.
theorem withoutTimestamps_eq_self (type : StorageType)
    (h : ∀ part ∈ type.visited, part.isTimestamp = false) : type.withoutTimestamps = type := by
  cases type with
  | timestamp unit zone => exact nomatch h _ List.mem_cons_self
  | list layout label item =>
      cases layout with
      | view | largeView => rfl
      | offsets | largeOffsets | fixed size =>
          exact congrArg _ (withoutTimestamps_eq_self item fun part hpart =>
            h part (List.mem_cons_of_mem _ hpart))
  | map form key value =>
      obtain ⟨hkey, hvalue⟩ := List.forall_mem_append.mp (List.forall_mem_cons.mp h).2
      rw [withoutTimestamps, withoutTimestamps_eq_self key hkey,
        withoutTimestamps_eq_self value hvalue]
  | struct members =>
      exact congrArg _ (membersWithoutTimestamps_eq_self members (List.forall_mem_cons.mp h).2)
  | dictionary isOrdered index value =>
      exact congrArg _ (withoutTimestamps_eq_self value (List.forall_mem_cons.mp h).2)
  | _ => rfl

theorem membersWithoutTimestamps_eq_self (members : List (Label × StorageType))
    (h : ∀ part ∈ visitedMembers members, part.isTimestamp = false) :
    membersWithoutTimestamps members = members := by
  cases members with
  | nil => rfl
  | cons member members =>
      obtain ⟨label, type⟩ := member
      obtain ⟨htype, hmembers⟩ := List.forall_mem_append.mp h
      rw [membersWithoutTimestamps, withoutTimestamps_eq_self type htype,
        membersWithoutTimestamps_eq_self members hmembers]

end

end StorageType

namespace HiveType

open StorageType (isUnsupported)

-- A type has a counterpart if and only if every type that is visited in it can have one, and
-- otherwise the first one that cannot is named. Without support for timestamps the counterpart has
-- whole numbers where it has timestamps with it, and that is all the difference.
theorem counterpart_of_visited (type : StorageType) :
    (∀ timestamps, (∃ hive, ofStorage timestamps type = .ok hive) ↔
      ∀ part ∈ type.visited, part.isUnsupported = false) ∧
    (∀ timestamps part, ofStorage timestamps type = .error part ↔
      type.visited.find? isUnsupported = some part) ∧
    (∀ timestamps name comment,
      error? (Schema.columnTypes timestamps [⟨name, type, comment⟩]) =
        (type.visited.find? isUnsupported).map fun part =>
          ⟨.schema (.column name part), [.schema (.unsupported part)]⟩) ∧
    ofStorage false type = ofStorage true type.withoutTimestamps ∧
    ofStorage false type = (ofStorage true type).map withoutTimestamps ∧
    ((∀ part ∈ type.visited, part.isTimestamp = false) →
      ofStorage true type = ofStorage false type) := by
  refine ⟨fun timestamps => ?_, fun timestamps part => ?_, fun timestamps name comment => ?_,
    (ofStorage_withoutTimestamps true type).symm, ofStorage_false type, fun h => ?_⟩
  · rw [← error?_eq_none_iff, error?_ofStorage, List.find?_eq_none]
    simp
  · rw [← error?_eq_some_iff, error?_ofStorage]
  · rw [← error?_ofStorage timestamps, Schema.columnTypes, Schema.addColumns]
    cases ofStorage timestamps type <;> rfl
  · rw [← ofStorage_withoutTimestamps true type, type.withoutTimestamps_eq_self h]

-- The indices of the dictionary and the items of the view are not looked at.
theorem counterpart_of_visited_structure :
    let view : StorageType := .list .view { name := "item" } (.duration .second)
    let type : StorageType := .struct [({ name := "open", isNullable := false }, .boolean),
      ({ name := "wait" }, .dictionary false (.duration .second) view),
      ({ name := "next" }, .monthDayNano)]
    (∀ part ∈ type.visited, part.isTimestamp = false) ∧
      ofStorage true type = ofStorage false type ∧
      ofStorage true type = .error view := by
  intro view type
  have hplain : ∀ part ∈ type.visited, part.isTimestamp = false := by decide
  obtain ⟨-, herror, -, -, -, hsame⟩ := counterpart_of_visited type
  exact ⟨hplain, hsame hplain, (herror true _).mpr rfl⟩

end HiveType

end CatalogSync
