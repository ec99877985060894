namespace TreeTable.Markup

def entity : Char → List Char
  | '&' => "&amp;".toList
  | '<' => "&lt;".toList
  | '>' => "&gt;".toList
  | '"' => "&quot;".toList
  | '\'' => "&#39;".toList
  | c => [c]

def escape (text : List Char) : List Char := text.flatMap entity

@[simp] theorem escape_nil : escape [] = [] := rfl

@[simp] theorem escape_cons (c : Char) (rest : List Char) :
    escape (c :: rest) = entity c ++ escape rest := rfl

@[simp] theorem escape_append (text rest : List Char) :
    escape (text ++ rest) = escape text ++ escape rest := by
  simp [escape]

end TreeTable.Markup
