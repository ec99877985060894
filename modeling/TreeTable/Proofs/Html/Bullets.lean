import TreeTable.Markup.Escape

namespace TreeTable.Html

/-- An item of a list: its text, and the items of the list inside it. -/
inductive Bullet where
  | mk (label : String) (inside : List Bullet)

inductive Lexeme where
  | openList
  | closeList
  | openItem
  | closeItem
  | letter (c : Char)
deriving DecidableEq, Repr

namespace Lexeme

def spelling : Lexeme → List Char
  | .openList => "<ul>".toList
  | .closeList => "</ul>".toList
  | .openItem => "<li>".toList
  | .closeItem => "</li>".toList
  | .letter c => Markup.entity c

def spell (lexemes : List Lexeme) : List Char := lexemes.flatMap spelling

theorem spell_append (first second : List Lexeme) :
    spell (first ++ second) = spell first ++ spell second := List.flatMap_append

def scan : List Char → Option (List Lexeme)
  | [] => some []
  | '<' :: 'u' :: 'l' :: '>' :: rest => (scan rest).map (.openList :: ·)
  | '<' :: '/' :: 'u' :: 'l' :: '>' :: rest => (scan rest).map (.closeList :: ·)
  | '<' :: 'l' :: 'i' :: '>' :: rest => (scan rest).map (.openItem :: ·)
  | '<' :: '/' :: 'l' :: 'i' :: '>' :: rest => (scan rest).map (.closeItem :: ·)
  | '&' :: 'a' :: 'm' :: 'p' :: ';' :: rest => (scan rest).map (.letter '&' :: ·)
  | '&' :: 'l' :: 't' :: ';' :: rest => (scan rest).map (.letter '<' :: ·)
  | '&' :: 'g' :: 't' :: ';' :: rest => (scan rest).map (.letter '>' :: ·)
  | '&' :: 'q' :: 'u' :: 'o' :: 't' :: ';' :: rest => (scan rest).map (.letter '"' :: ·)
  | '&' :: '#' :: '3' :: '9' :: ';' :: rest => (scan rest).map (.letter '\'' :: ·)
  | c :: rest =>
    if Markup.entity c = [c] then (scan rest).map (.letter c :: ·) else none

theorem scan_letter (c : Char) (rest : List Char) :
    scan (Markup.entity c ++ rest) = (scan rest).map (.letter c :: ·) := by
  unfold Markup.entity
  split
  · rfl
  · rfl
  · rfl
  · rfl
  · rfl
  · next amp lt gt quot apos =>
    have plain : Markup.entity c = [c] := by
      unfold Markup.entity
      split <;> first | contradiction | rfl
    rw [List.singleton_append, scan, if_pos plain]
    all_goals
      intro _ same
      first | exact absurd same lt | exact absurd same amp

theorem scan_spelling (lexeme : Lexeme) (rest : List Char) :
    scan (lexeme.spelling ++ rest) = (scan rest).map (lexeme :: ·) := by
  cases lexeme with
  | openList | closeList | openItem | closeItem => rfl
  | letter c => exact scan_letter c rest

theorem scan_spell (lexemes : List Lexeme) : scan (spell lexemes) = some lexemes := by
  induction lexemes with
  | nil => rfl
  | cons lexeme rest ih =>
    have spelled : spell (lexeme :: rest) = lexeme.spelling ++ spell rest := List.flatMap_cons
    rw [spelled, scan_spelling, ih]
    rfl

end Lexeme

namespace Bullet

open Lexeme

mutual

def lexemes : Bullet → List Lexeme
  | ⟨label, inside⟩ =>
    .openItem :: (label.toList.map .letter ++ (lexemesInside inside ++ [.closeItem]))

def lexemesInside : List Bullet → List Lexeme
  | [] => []
  | first :: rest => .openList :: (lexemes first ++ (lexemesOf rest ++ [.closeList]))

def lexemesOf : List Bullet → List Lexeme
  | [] => []
  | first :: rest => lexemes first ++ lexemesOf rest

end

theorem lexemesInside_of_ne_nil {items : List Bullet} (some : items ≠ []) :
    lexemesInside items = .openList :: (lexemesOf items ++ [.closeList]) := by
  cases items with
  | nil => exact absurd rfl some
  | cons first rest => simp [lexemesInside, lexemesOf]

def outlineLexemes (items : List Bullet) : List Lexeme :=
  .openList :: (lexemesOf items ++ [.closeList]) ++ [.letter '\n']

def outline (items : List Bullet) : String := String.ofList (spell (outlineLexemes items))

/-- What is open where a text is read from its end: a list and its items from here on, or an item,
the text from here on and the items of the list behind it. -/
inductive Frame where
  | list (items : List Bullet)
  | item (text : List Char) (inside : List Bullet)

def unread : Lexeme → List Frame → Option (List Frame)
  | .closeList, .item [] [] :: frames => some (.list [] :: .item [] [] :: frames)
  | .openList, .list items :: .item [] [] :: frames => some (.item [] items :: frames)
  | .closeItem, .list items :: frames => some (.item [] [] :: .list items :: frames)
  | .openItem, .item text inside :: .list items :: frames =>
    some (.list (⟨String.ofList text, inside⟩ :: items) :: frames)
  | .letter c, .item text inside :: frames => some (.item (c :: text) inside :: frames)
  | _, _ => none

def unreadAll (lexemes : List Lexeme) (frames : List Frame) : Option (List Frame) :=
  lexemes.foldr (fun lexeme behind => behind.bind (unread lexeme)) (some frames)

/-- The items of the outermost list of a text that is nothing but that list and a line end. -/
def readOutline (text : String) : Option (List Bullet) := do
  let lexemes ← scan text.toList
  if lexemes.getLast? = some (.letter '\n') then
    match unreadAll lexemes.dropLast [.item [] []] with
    | some [.item [] items] => some items
    | _ => none
  else none

theorem unreadAll_cons (lexeme : Lexeme) (rest : List Lexeme) (frames : List Frame) :
    unreadAll (lexeme :: rest) frames = (unreadAll rest frames).bind (unread lexeme) := rfl

theorem unreadAll_append (first second : List Lexeme) {frames behind : List Frame}
    (read : unreadAll second frames = some behind) :
    unreadAll (first ++ second) frames = unreadAll first behind := by
  unfold unreadAll at *
  rw [List.foldr_append, read]

theorem unreadAll_letters (text : List Char) (inside : List Bullet) (frames : List Frame) :
    unreadAll (text.map .letter) (.item [] inside :: frames) =
      some (.item text inside :: frames) := by
  induction text with
  | nil => rfl
  | cons c text ih =>
    rw [List.map_cons, unreadAll_cons, ih]
    rfl

-- Read from the end, an item goes in front of the items that were read behind it.
mutual

theorem unreadAll_lexemes (items : List Bullet) (frames : List Frame) :
    (bullet : Bullet) → unreadAll bullet.lexemes (.list items :: frames) =
      some (.list (bullet :: items) :: frames)
  | ⟨label, inside⟩ => by
    have closed : unreadAll [.closeItem] (.list items :: frames) =
        some (.item [] [] :: .list items :: frames) := rfl
    have nested := unreadAll_append (lexemesInside inside) [.closeItem] closed
    rw [unreadAll_lexemesInside (.list items :: frames) inside] at nested
    have lettered := unreadAll_append (label.toList.map .letter) _ nested
    rw [unreadAll_letters] at lettered
    rw [lexemes, unreadAll_cons, lettered, Option.bind_some, unread, String.ofList_toList]

theorem unreadAll_lexemesInside (frames : List Frame) :
    (inside : List Bullet) → unreadAll (lexemesInside inside) (.item [] [] :: frames) =
      some (.item [] inside :: frames)
  | [] => rfl
  | first :: rest => by
    have closed : unreadAll [.closeList] (.item [] [] :: frames) =
        some (.list [] :: .item [] [] :: frames) := rfl
    have others := unreadAll_append (lexemesOf rest) [.closeList] closed
    rw [unreadAll_lexemesOf [] (.item [] [] :: frames) rest] at others
    have whole := unreadAll_append first.lexemes _ others
    rw [unreadAll_lexemes (rest ++ []) (.item [] [] :: frames) first] at whole
    rw [lexemesInside, unreadAll_cons, whole, Option.bind_some, unread, List.append_nil]

theorem unreadAll_lexemesOf (items : List Bullet) (frames : List Frame) :
    (bullets : List Bullet) → unreadAll (lexemesOf bullets) (.list items :: frames) =
      some (.list (bullets ++ items) :: frames)
  | [] => rfl
  | first :: rest => by
    have whole := unreadAll_append first.lexemes _ (unreadAll_lexemesOf items frames rest)
    rw [unreadAll_lexemes (rest ++ items) frames first] at whole
    rw [lexemesOf, whole, List.cons_append]

end

theorem readOutline_outline (items : List Bullet) : readOutline (outline items) = some items := by
  have closed : unreadAll [.closeList] [.item [] []] = some [.list [], .item [] []] := rfl
  have inside := unreadAll_append (lexemesOf items) [.closeList] closed
  rw [unreadAll_lexemesOf [] [.item [] []] items, List.append_nil] at inside
  have read : unreadAll (.openList :: (lexemesOf items ++ [.closeList])) [.item [] []] =
      some [.item [] items] := by
    rw [unreadAll_cons, inside]
    rfl
  rw [readOutline, outline, String.toList_ofList, scan_spell]
  simp only [Option.bind_eq_bind, Option.bind_some, outlineLexemes, List.getLast?_concat,
    List.dropLast_concat, if_true, read]

end Bullet

end TreeTable.Html
