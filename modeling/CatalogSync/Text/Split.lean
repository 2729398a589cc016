namespace CatalogSync.Text

def consFirst (c : Char) : List (List Char) → List (List Char)
  | [] => [[c]]
  | piece :: pieces => (c :: piece) :: pieces

-- The pieces between the separators. A text with `n` separators has `n + 1` pieces.
def pieces (separator : Char) : List Char → List (List Char)
  | [] => [[]]
  | c :: cs =>
    if c = separator then [] :: pieces separator cs else consFirst c (pieces separator cs)

def split (separator : Char) (s : String) : List String :=
  (pieces separator s.toList).map String.ofList

-- The text before the first character of a set and, if there is one, the text after it.
def cutAt (p : Char → Bool) (cs : List Char) : List Char × Option (List Char) :=
  match cs.dropWhile fun c => !p c with
  | [] => (cs, none)
  | _ :: after => (cs.takeWhile fun c => !p c, some after)

theorem pieces_ne_nil (separator : Char) (cs : List Char) : pieces separator cs ≠ [] := by
  cases cs with
  | nil => simp [pieces]
  | cons c cs =>
    rw [pieces]
    split
    · simp
    · cases pieces separator cs <;> simp [consFirst]

end CatalogSync.Text
