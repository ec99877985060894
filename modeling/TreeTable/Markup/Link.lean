import TreeTable.Text.Blank
import TreeTable.Text.Word
import TreeTable.Markup.Escape

namespace TreeTable.Markup

def schemes : List (List Char) := ["http://".toList, "https://".toList, "ftp://".toList]

def isAddressChar (c : Char) : Bool :=
  !(isBlank c || c == '<' || c == '>' || c == '"' || c == '\'')

def after? : (start text : List Char) → Option (List Char)
  | [], text => some text
  | _ :: _, [] => none
  | c :: start, d :: text => if c = d then after? start text else none

def addressAt? (text : List Char) : Option (List Char × List Char) :=
  schemes.findSome? fun scheme =>
    match after? scheme text with
    | some rest =>
      let body := rest.takeWhile isAddressChar
      if body.isEmpty then none else some (scheme ++ body, rest.dropWhile isAddressChar)
    | none => none

inductive Segment where
  | plain (c : Char)
  | link (address : List Char)
deriving DecidableEq, Repr

namespace Segment

def source : Segment → List Char
  | .plain c => [c]
  | .link address => address

def markup : Segment → List Char
  | .plain c => entity c
  | .link address =>
    "<a href=\"".toList ++ escape address ++ "\">".toList ++ escape address ++ "</a>".toList

end Segment

theorem after?_eq_some {start text rest : List Char} (found : after? start text = some rest) :
    text = start ++ rest := by
  induction start generalizing text with
  | nil => simpa [after?] using found
  | cons c start ih =>
    cases text with
    | nil => simp [after?] at found
    | cons d text =>
      by_cases same : c = d
      · simp only [after?, same, if_true] at found
        simp [same, ih found]
      · simp [after?, same] at found

theorem addressAt?_eq_some {text address rest : List Char}
    (found : addressAt? text = some (address, rest)) : text = address ++ rest ∧ address ≠ [] := by
  obtain ⟨scheme, -, found⟩ := List.exists_of_findSome?_eq_some found
  split at found
  · next body start =>
    simp only at found
    split at found
    · simp at found
    · next nonempty =>
      obtain ⟨rfl, rfl⟩ := Prod.mk.injEq .. ▸ Option.some.injEq .. ▸ found
      refine ⟨?_, by simp_all⟩
      rw [after?_eq_some start, List.append_assoc, List.takeWhile_append_dropWhile]
  · simp at found

def segments (afterWord : Bool) (text : List Char) : List Segment :=
  match text with
  | [] => []
  | c :: rest =>
    match _found : if afterWord then none else addressAt? (c :: rest) with
    | some (address, remaining) => .link address :: segments true remaining
    | none => .plain c :: segments (isWordChar c) rest
termination_by text.length
decreasing_by
  · have found : addressAt? (c :: rest) = some (address, remaining) := by
      by_cases inWord : afterWord <;> simp_all
    obtain ⟨whole, nonempty⟩ := addressAt?_eq_some found
    have positive := List.length_pos_iff.mpr nonempty
    have := congrArg List.length whole
    simp only [List.length_append] at this
    omega
  · simp

def linkify (text : List Char) : List Char := (segments false text).flatMap Segment.markup

end TreeTable.Markup
