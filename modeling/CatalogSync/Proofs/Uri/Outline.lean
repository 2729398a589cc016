import CatalogSync.Proofs.Traversal
import CatalogSync.Proofs.Uri.Cuts

namespace CatalogSync.Uri

open CatalogSync.Text

-- The scheme and the authority of a location, and all that stands behind them.
structure Outline where
  scheme : List Char
  authority : List Char
  rest : List Char

def outline (cs : List Char) : Outline :=
  let (scheme, after) := cutScheme cs
  let (authority, rest) := cutAuthority after
  ⟨scheme, authority, rest⟩

-- The characters that end a path.
def endsPath (c : Char) : Bool := c == '?' || c == '#'

namespace Outline

def path (outline : Outline) : List Char := outline.rest.takeWhile (!endsPath ·)

def uri (outline : Outline) : Uri :=
  let (beforeFragment, fragment) := cutAt (· = '#') outline.rest
  let (path, query) := cutAt (· = '?') beforeFragment
  { scheme := .ofList outline.scheme
    authority := .ofList outline.authority
    path := .ofList path
    query := .ofList (query.getD [])
    fragment := .ofList (fragment.getD []) }

@[simp]
theorem uri_scheme (outline : Outline) : outline.uri.scheme = .ofList outline.scheme := rfl

@[simp]
theorem uri_authority (outline : Outline) : outline.uri.authority = .ofList outline.authority :=
  rfl

@[simp]
theorem uri_path (outline : Outline) : outline.uri.path = .ofList outline.path := by
  have hends : (fun c => decide ((!decide (c = '?')) = true ∧ (!decide (c = '#')) = true)) =
      fun c => !endsPath c := by
    funext c
    by_cases hq : c = '?' <;> by_cases hf : c = '#' <;> simp [endsPath, hq, hf]
  change String.ofList (cutAt (· = '?') (cutAt (· = '#') outline.rest).1).1 = _
  rw [cutAt_fst, cutAt_fst, List.takeWhile_takeWhile, hends]
  rfl

-- A rest without the characters that end a path is the path.
theorem uri_of_path {outline : Outline} (h : ∀ c ∈ outline.rest, endsPath c = false) :
    outline.uri =
      ⟨.ofList outline.scheme, .ofList outline.authority, .ofList outline.rest, "", ""⟩ := by
  have hfragment : cutAt (· = '#') outline.rest = (outline.rest, none) := by
    apply cutAt_of_forall
    intro c hc
    have hends := h c hc
    simp only [endsPath, Bool.or_eq_false_iff, beq_eq_false_iff_ne] at hends
    simpa using hends.2
  have hquery : cutAt (· = '?') outline.rest = (outline.rest, none) := by
    apply cutAt_of_forall
    intro c hc
    have hends := h c hc
    simp only [endsPath, Bool.or_eq_false_iff, beq_eq_false_iff_ne] at hends
    simpa using hends.1
  rw [uri, hfragment]
  simp only [hquery]
  rfl

-- The outline of a location that goes on.
def extend (outline : Outline) (tail : List Char) : Outline :=
  { outline with rest := outline.rest ++ tail }

@[simp]
theorem extend_scheme (outline : Outline) (tail : List Char) :
    (outline.extend tail).scheme = outline.scheme := rfl

@[simp]
theorem extend_authority (outline : Outline) (tail : List Char) :
    (outline.extend tail).authority = outline.authority := rfl

@[simp]
theorem extend_rest (outline : Outline) (tail : List Char) :
    (outline.extend tail).rest = outline.rest ++ tail := rfl

theorem path_extend_of_mem {outline : Outline} {c : Char} (hc : c ∈ outline.rest)
    (hends : endsPath c = true) (tail : List Char) : (outline.extend tail).path = outline.path := by
  rw [path, extend_rest, List.takeWhile_append, if_neg, path]
  intro hlen
  have hall := (List.takeWhile_prefix _).eq_of_length hlen
  have hnot := List.takeWhile_eq_self_iff.mp hall c hc
  rw [hends] at hnot
  exact absurd hnot (by decide)

theorem path_extend_of_forall {outline : Outline} (h : ∀ c ∈ outline.rest, endsPath c = false)
    (tail : List Char) :
    (outline.extend tail).path = outline.rest ++ tail.takeWhile (!endsPath ·) := by
  rw [path, extend_rest, List.takeWhile_append_of_pos]
  simpa using h

end Outline

theorem outline_scheme (cs : List Char) : (outline cs).scheme = (cutScheme cs).1 := rfl

theorem isLowerScheme_outline (cs : List Char) :
    (outline cs).scheme = [] ∨ IsLowerScheme (outline cs).scheme :=
  isLowerScheme_cutScheme cs

theorem endsAuthority_outline (cs : List Char) :
    ∀ c ∈ (outline cs).authority, endsAuthority c = false :=
  fun _ hc => endsAuthority_of_mem hc

theorem outline_authority_subset (cs : List Char) : (outline cs).authority ⊆ cs :=
  List.Subset.trans (cutAuthority_fst_subset _) (cutScheme_snd_suffix cs).subset

theorem outline_rest_suffix (cs : List Char) : (outline cs).rest <:+ cs :=
  (cutAuthority_snd_suffix _).trans (cutScheme_snd_suffix cs)

theorem outline_append {cs tail : List Char} (hlast : cs.getLast? ≠ some '/') (htail : IsTail tail)
    (h : (cutScheme cs).2 ≠ [] ∨ ¬['/', '/'] <+: tail) :
    outline (cs ++ tail) = (outline cs).extend tail := by
  have hafter := getLast?_ne_of_suffix (cutScheme_snd_suffix cs) hlast
  simp only [outline, cutScheme_append htail, cutAuthority_append hafter htail h]
  rfl

theorem outline_written {scheme authority rest : List Char} (hscheme : IsLowerScheme scheme)
    (hauthority : ∀ c ∈ authority, endsAuthority c = false) (hrest : IsTail rest) :
    outline (scheme ++ ':' :: '/' :: '/' :: (authority ++ rest)) = ⟨scheme, authority, rest⟩ := by
  simp only [outline, cutScheme_written hscheme, cutAuthority_written hauthority hrest]

-- What ends a path stands behind the authority.
theorem mem_outline_rest {cs : List Char} {c : Char} (hc : c ∈ cs) (hends : endsPath c = true) :
    c ∈ (outline cs).rest := by
  have hmark : c = '?' ∨ c = '#' := by simpa [endsPath] using hends
  have hafter : c ∈ (cutScheme cs).2 := by
    obtain hcut | ⟨scheme, after, hcs, hscheme, hcut⟩ := cutScheme_cases cs
    · rw [hcut]
      exact hc
    · rw [hcut]
      rw [hcs, List.mem_append, List.mem_cons] at hc
      rcases hc with hfront | rfl | hafter
      · have hchar := isSchemeChar_of_mem hscheme hfront
        rcases hmark with rfl | rfl <;> exact absurd hchar (by decide)
      · exact absurd hends (by decide)
      · exact hafter
  change c ∈ (cutAuthority (cutScheme cs).2).2
  generalize (cutScheme cs).2 = after at hafter
  by_cases hslashes : ['/', '/'] <+: after
  · obtain ⟨text, rfl⟩ := hslashes
    have htext : c ∈ text := by
      rcases List.mem_append.mp hafter with h | h
      · rcases hmark with rfl | rfl <;> exact absurd h (by decide)
      · exact h
    rw [← List.takeWhile_append_dropWhile (p := (!endsAuthority ·)) (l := text),
      List.mem_append] at htext
    refine htext.resolve_left fun h => ?_
    have hnot := List.mem_takeWhile_imp h
    rcases hmark with rfl | rfl <;> exact absurd hnot (by decide)
  · rw [cutAuthority_of_ne hslashes]
    exact hafter

-- An authority as it is read.
structure IsAuthority (cs : List Char) : Prop where
  plain : ∀ c ∈ cs, endsAuthority c = false
  unbroken : IsUnbroken cs
  brackets : checkBrackets cs = .ok ()
  folding : checkFolding cs = .ok ()

theorem isAuthority_nil : IsAuthority [] :=
  ⟨List.forall_mem_nil _, List.forall_mem_nil _, rfl, rfl⟩

-- A path as it is read.
structure IsPath (cs : List Char) : Prop where
  unbroken : IsUnbroken cs
  plain : ∀ c ∈ cs, endsPath c = false

-- The checks that an authority goes through when it is read.
def checkAuthority (authority : List Char) : Except UriProblem Unit := do
  checkBrackets authority
  checkFolding authority

theorem checkAuthority_eq_ok_iff {authority : List Char} :
    checkAuthority authority = .ok () ↔
      checkBrackets authority = .ok () ∧ checkFolding authority = .ok () := by
  rw [checkAuthority, Traversal.bind_eq_ok_iff]
  exact ⟨fun ⟨_, hbrackets, hfolding⟩ => ⟨hbrackets, hfolding⟩, fun ⟨hbrackets, hfolding⟩ =>
    ⟨(), hbrackets, hfolding⟩⟩

-- The checks of an authority are those that an authority as it is read passes.
theorem isAuthority_outline_iff {cs : List Char} (h : IsUnbroken cs) :
    IsAuthority (outline cs).authority ↔ checkAuthority (outline cs).authority = .ok () := by
  rw [checkAuthority_eq_ok_iff]
  exact ⟨fun hread => ⟨hread.brackets, hread.folding⟩, fun hchecks =>
    ⟨endsAuthority_outline cs, h.mono (outline_authority_subset cs), hchecks.1, hchecks.2⟩⟩

-- Only the authority can make a text unreadable.
theorem parse_eq (s : String) :
    parse s = (checkAuthority (outline (significant s.toList)).authority).map
      fun _ => (outline (significant s.toList)).uri := by
  unfold parse checkAuthority
  generalize significant s.toList = cs
  change (do
    checkBrackets (outline cs).authority
    checkFolding (outline cs).authority
    pure (outline cs).uri) = _
  cases checkBrackets (outline cs).authority with
  | error problem => rfl
  | ok done =>
      cases checkFolding (outline cs).authority with
      | error problem => rfl
      | ok done => rfl

theorem parse_eq_error_iff {s : String} {problem : UriProblem} :
    parse s = .error problem ↔
      checkAuthority (outline (significant s.toList)).authority = .error problem := by
  rw [parse_eq, Traversal.map_eq_error_iff]

theorem parse_eq_ok_iff (s : String) (uri : Uri) :
    parse s = .ok uri ↔
      IsAuthority (outline (significant s.toList)).authority ∧
        uri = (outline (significant s.toList)).uri := by
  rw [parse_eq, Traversal.map_eq_ok_iff, isAuthority_outline_iff (isUnbroken_significant _)]
  exact ⟨fun ⟨_, hchecks, huri⟩ => ⟨hchecks, huri.symm⟩, fun ⟨hchecks, huri⟩ =>
    ⟨(), hchecks, huri.symm⟩⟩

-- The parts of a location that has been read.
structure IsRead (uri : Uri) : Prop where
  scheme : uri.scheme = "" ∨ IsLowerScheme uri.scheme.toList
  authority : IsAuthority uri.authority.toList
  path : IsPath uri.path.toList

theorem isRead_of_parse {s : String} {uri : Uri} (h : parse s = .ok uri) : IsRead uri := by
  obtain ⟨hauthority, huri⟩ := (parse_eq_ok_iff s uri).mp h
  have hunbroken := isUnbroken_significant s.toList
  generalize significant s.toList = cs at hauthority huri hunbroken
  subst huri
  refine ⟨?_, by simpa using hauthority, ?_⟩
  · rcases isLowerScheme_outline cs with hnil | hlower
    · exact .inl (by rw [Outline.uri_scheme, hnil, String.ofList_nil])
    · exact .inr (by simpa using hlower)
  · have hpath : (outline cs).path ⊆ cs :=
      List.Subset.trans (List.takeWhile_prefix _).subset (outline_rest_suffix cs).subset
    rw [Outline.uri_path, String.toList_ofList]
    exact ⟨hunbroken.mono hpath, fun c hc => by simpa using List.mem_takeWhile_imp hc⟩

-- A location that is put together from its parts has no character that does not count.
theorem significant_written {scheme after : List Char} (hscheme : IsLowerScheme scheme)
    (hafter : IsUnbroken after) :
    significant (scheme ++ ':' :: after) = scheme ++ ':' :: after := by
  have hfront : IsUnbroken scheme := by
    intro c hc
    have hchar := isSchemeChar_of_mem hscheme.isScheme hc
    refine ⟨?_, ?_, ?_⟩ <;> (rintro rfl; exact absurd hchar (by decide))
  have hunbroken : IsUnbroken (scheme ++ ':' :: after) :=
    isUnbroken_append.mpr ⟨hfront, List.forall_mem_cons.mpr ⟨by decide, hafter⟩⟩
  obtain ⟨c, cs, hc⟩ := List.exists_cons_of_ne_nil hscheme.ne_nil
  have hs := hscheme.isScheme
  rw [hc] at hs hunbroken ⊢
  have hletter : isAsciiLetter c = true := (Bool.and_eq_true_iff.mp hs).1
  exact significant_eq_self (lt_toNat_of_isAsciiLetter hletter) hunbroken

-- A location that is put together from its parts is read as these parts.
theorem outline_significant_written {scheme authority rest : String}
    (hscheme : IsLowerScheme scheme.toList) (hauthority : IsAuthority authority.toList)
    (hrest : IsUnbroken rest.toList) (htail : IsTail rest.toList) :
    outline (significant (scheme ++ "://" ++ authority ++ rest).toList) =
      ⟨scheme.toList, authority.toList, rest.toList⟩ := by
  have htext : (scheme ++ "://" ++ authority ++ rest).toList =
      scheme.toList ++ ':' :: '/' :: '/' :: (authority.toList ++ rest.toList) := by
    simp [String.toList_append]
  have hbehind : IsUnbroken (authority.toList ++ rest.toList) :=
    isUnbroken_append.mpr ⟨hauthority.unbroken, hrest⟩
  have hafter : IsUnbroken ('/' :: '/' :: (authority.toList ++ rest.toList)) :=
    List.forall_mem_cons.mpr ⟨by decide, List.forall_mem_cons.mpr ⟨by decide, hbehind⟩⟩
  rw [htext, significant_written hscheme hafter,
    outline_written hscheme hauthority.plain htail]

theorem parse_written {scheme authority path : String} (hscheme : IsLowerScheme scheme.toList)
    (hauthority : IsAuthority authority.toList) (hpath : IsPath path.toList)
    (htail : IsTail path.toList) :
    parse (scheme ++ "://" ++ authority ++ path) = .ok ⟨scheme, authority, path, "", ""⟩ := by
  rw [parse_eq_ok_iff, outline_significant_written hscheme hauthority hpath.unbroken htail]
  refine ⟨hauthority, ?_⟩
  rw [Outline.uri_of_path hpath.plain]
  simp

-- The host of a location is that of its authority.
theorem host_congr {uri other : Uri} (h : uri.authority = other.authority) :
    uri.host = other.host := by
  unfold host
  rw [h]

theorem host_of_authority_eq_empty {uri : Uri} (h : uri.authority = "") : uri.host = "" := by
  unfold host
  rw [h]
  rfl

end CatalogSync.Uri
