namespace TreeTable.Markup

def dots : List Char := ['.', '.', '.']

def keptFront (limit : Nat) : Nat := limit / 2 - 1

def keptBack (limit : Nat) : Nat := limit / 2 - 2

def cut (limit : Nat) (text : List Char) : List Char :=
  text.take (keptFront limit) ++ dots ++ text.drop (text.length - keptBack limit)

def clip (limit : Int) (text : List Char) : List Char :=
  if limit ≤ 0 ∨ (text.length : Int) ≤ limit then text else cut limit.toNat text

theorem clip_of_length_le {limit : Int} {text : List Char}
    (fits : (text.length : Int) ≤ limit) : clip limit text = text := by
  simp [clip, fits]

end TreeTable.Markup
