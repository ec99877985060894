import TreeTable.Markup.Link

namespace TreeTable.Markup

/-- A word begins or ends between two texts. -/
def WordEdge (before after : List Char) : Prop :=
  before.getLast?.any isWordChar ≠ after.head?.any isWordChar

/-- An address, between what stands before it and after it. It goes on as far as it can. -/
structure IsAddress (before address after : List Char) : Prop where
  edge : WordEdge before (address ++ after)
  spelled : ∃ scheme ∈ schemes, ∃ body, body ≠ [] ∧ (∀ c ∈ body, isAddressChar c = true) ∧
    address = scheme ++ body
  longest : ∀ c ∈ after.head?, isAddressChar c = false

theorem schemes_spelled : ∀ scheme ∈ schemes, scheme.head?.any isWordChar = true ∧
    (∀ c ∈ scheme, isAddressChar c = true) ∧ '.' ∉ scheme := by
  have checked : (schemes.all fun scheme => scheme.head?.any isWordChar &&
      (scheme.all isAddressChar && !scheme.contains '.')) = true := rfl
  intro scheme among
  simpa using List.all_eq_true.mp checked scheme among

section Exact

variable {α : Type} {p : α → Bool} {body rest : List α}

theorem takeWhile_exact (inside : ∀ c ∈ body, p c = true) (ends : ∀ c ∈ rest.head?, p c = false) :
    (body ++ rest).takeWhile p = body := by
  rw [List.takeWhile_append_of_pos inside]
  cases rest with
  | nil => simp
  | cons c rest => simp [ends c rfl]

theorem dropWhile_exact (inside : ∀ c ∈ body, p c = true) (ends : ∀ c ∈ rest.head?, p c = false) :
    (body ++ rest).dropWhile p = rest := by
  rw [List.dropWhile_append_of_pos inside]
  cases rest with
  | nil => rfl
  | cons c rest => simp [ends c rfl]

theorem head?_dropWhile (text : List α) : ∀ c ∈ (text.dropWhile p).head?, p c = false := by
  intro c first
  have stopped := List.head?_dropWhile_not p text
  rw [Option.mem_def.mp first] at stopped
  exact stopped

end Exact

namespace IsAddress

variable {before address after : List Char}

theorem exists_cons (found : IsAddress before address after) :
    ∃ c rest, address = c :: rest ∧ isWordChar c = true ∧ isAddressChar c = true := by
  obtain ⟨scheme, among, body, -, -, rfl⟩ := found.spelled
  obtain ⟨word, inside, -⟩ := schemes_spelled scheme among
  cases scheme with
  | nil => cases word
  | cons c scheme => exact ⟨c, scheme ++ body, rfl, word, inside c List.mem_cons_self⟩

theorem chars (found : IsAddress before address after) :
    ∀ c ∈ address, isAddressChar c = true := by
  obtain ⟨scheme, among, body, -, inside, rfl⟩ := found.spelled
  exact List.forall_mem_append.mpr ⟨(schemes_spelled scheme among).2.1, inside⟩

theorem before_last (found : IsAddress before address after) :
    before.getLast?.any isWordChar = false := by
  obtain ⟨c, rest, rfl, word, -⟩ := found.exists_cons
  have edge := found.edge
  simp only [WordEdge, List.cons_append, List.head?_cons, Option.any_some, word] at edge
  exact Bool.not_eq_true _ ▸ edge

end IsAddress

theorem after?_append (start rest : List Char) : after? start (start ++ rest) = some rest := by
  induction start with
  | nil => rfl
  | cons c start ih => simpa [after?] using ih

theorem addressAt?_isSome {scheme body rest : List Char} (among : scheme ∈ schemes)
    (some : body ≠ []) (inside : ∀ c ∈ body, isAddressChar c = true)
    (ends : ∀ c ∈ rest.head?, isAddressChar c = false) :
    addressAt? (scheme ++ (body ++ rest)) ≠ none := by
  intro missed
  have passed := List.findSome?_eq_none_iff.mp missed scheme among
  simp only [after?_append, takeWhile_exact inside ends] at passed
  simp [some] at passed

theorem scheme_unique {scheme other rest rest' : List Char} (among : scheme ∈ schemes)
    (among' : other ∈ schemes) (same : scheme ++ rest = other ++ rest') : scheme = other := by
  simp only [schemes, List.mem_cons, List.not_mem_nil, or_false] at among among'
  rcases among with rfl | rfl | rfl <;> rcases among' with rfl | rfl | rfl
  all_goals first | rfl | simp at same

theorem addressAt?_cases {text address after : List Char}
    (found : addressAt? text = some (address, after)) :
    ∃ scheme ∈ schemes, ∃ rest, text = scheme ++ rest ∧ rest.takeWhile isAddressChar ≠ [] ∧
      address = scheme ++ rest.takeWhile isAddressChar ∧ after = rest.dropWhile isAddressChar := by
  obtain ⟨scheme, among, found⟩ := List.exists_of_findSome?_eq_some found
  split at found
  · next rest start =>
    simp only [Option.ite_none_left_eq_some, Option.some.injEq, Prod.mk.injEq] at found
    obtain ⟨some, rfl, rfl⟩ := found
    exact ⟨scheme, among, rest, after?_eq_some start, by simpa using some, rfl, rfl⟩
  · cases found

theorem isAddress_of_addressAt? {before text address after : List Char}
    (wordEnds : before.getLast?.any isWordChar = false)
    (found : addressAt? text = some (address, after)) :
    text = address ++ after ∧ IsAddress before address after := by
  obtain ⟨scheme, among, rest, rfl, some, rfl, rfl⟩ := addressAt?_cases found
  refine ⟨?_, ?_, ?_, head?_dropWhile rest⟩
  · rw [List.append_assoc, List.takeWhile_append_dropWhile]
  · have word := (schemes_spelled scheme among).1
    cases scheme with
    | nil => cases word
    | cons c scheme => simpa [WordEdge, wordEnds] using word
  · exact ⟨scheme, among, _, some, List.all_eq_true.mp List.all_takeWhile, rfl⟩

theorem addressAt?_of_isAddress {before address after : List Char}
    (found : IsAddress before address after) :
    addressAt? (address ++ after) = some (address, after) := by
  obtain ⟨scheme, among, body, some, inside, rfl⟩ := found.spelled
  rw [List.append_assoc]
  obtain ⟨pair, read⟩ :=
    Option.ne_none_iff_exists'.mp (addressAt?_isSome among some inside found.longest)
  obtain ⟨other, among', rest, same, -, address, after'⟩ := addressAt?_cases read
  obtain rfl := scheme_unique among among' same
  obtain rfl := List.append_cancel_left same
  rw [takeWhile_exact inside found.longest] at address
  rw [dropWhile_exact inside found.longest] at after'
  rw [read, ← address, ← after']

theorem addressAt?_eq_none {text : List Char}
    (ends : ∀ c ∈ text.head?, isAddressChar c = false) : addressAt? text = none := by
  cases read : addressAt? text with
  | none => rfl
  | some pair =>
    have wordEnds : ([] : List Char).getLast?.any isWordChar = false := rfl
    obtain ⟨rfl, found⟩ := isAddress_of_addressAt? wordEnds read
    obtain ⟨c, rest, spelled, -, inside⟩ := found.exists_cons
    have stops := ends c (by rw [spelled]; rfl)
    rw [inside] at stops
    cases stops

/-- A text in pieces, after what stands before it: each piece is the address that begins there, or
a character where none does. -/
inductive CutsOut : (before : List Char) → List Segment → (text : List Char) → Prop
  | nil (before : List Char) : CutsOut before [] []
  | plain {before : List Char} {c : Char} {pieces : List Segment} {rest : List Char}
      (none : ∀ address after, c :: rest = address ++ after → ¬IsAddress before address after)
      (goesOn : CutsOut (before ++ [c]) pieces rest) :
      CutsOut before (.plain c :: pieces) (c :: rest)
  | link {before address after : List Char} {pieces : List Segment}
      (found : IsAddress before address after)
      (goesOn : CutsOut (before ++ address) pieces after) :
      CutsOut before (.link address :: pieces) (address ++ after)

theorem segments_cutsOut (afterWord : Bool) (text before : List Char)
    (knows : afterWord = before.getLast?.any isWordChar ∨ addressAt? text = none) :
    CutsOut before (segments afterWord text) text := by
  fun_induction segments afterWord text generalizing before with
  | case1 afterWord => exact .nil before
  | case2 afterWord c rest address remaining found ih =>
    cases afterWord with
    | true => cases found
    | false =>
      have read : addressAt? (c :: rest) = some (address, remaining) := found
      have wordEnds : before.getLast?.any isWordChar = false := by
        rcases knows with same | missed
        · exact same.symm
        · rw [missed] at read
          cases read
      obtain ⟨whole, found⟩ := isAddress_of_addressAt? wordEnds read
      rw [whole]
      exact .link found (ih _ (.inr (addressAt?_eq_none found.longest)))
  | case3 afterWord c rest missed ih =>
    refine .plain (fun address after whole found => ?_) (ih _ (.inl (by simp)))
    have read := addressAt?_of_isAddress found
    rw [← whole] at read
    cases afterWord with
    | false => cases read.symm.trans missed
    | true =>
      rcases knows with same | missed
      · cases same.trans found.before_last
      · cases read.symm.trans missed

namespace CutsOut

variable {before text : List Char} {pieces : List Segment}

theorem source_eq (cuts : CutsOut before pieces text) : pieces.flatMap Segment.source = text := by
  induction cuts with
  | nil => rfl
  | plain none goesOn ih => rw [List.flatMap_cons, ih]; rfl
  | link found goesOn ih => rw [List.flatMap_cons, ih]; rfl

theorem isAddress (cuts : CutsOut before pieces text) {front back : List Segment}
    {address : List Char} (stands : pieces = front ++ .link address :: back) :
    IsAddress (before ++ front.flatMap Segment.source) address (back.flatMap Segment.source) := by
  induction cuts generalizing front with
  | nil => simp at stands
  | plain none goesOn ih =>
    rcases List.cons_eq_append_iff.mp stands with ⟨-, first⟩ | ⟨front, rfl, rest⟩
    · cases first
    · simpa [Segment.source] using ih rest
  | link found goesOn ih =>
    rcases List.cons_eq_append_iff.mp stands with ⟨rfl, first⟩ | ⟨front, rfl, rest⟩
    · cases first
      simpa [goesOn.source_eq] using found
    · simpa [Segment.source] using ih rest

theorem exists_link (cuts : CutsOut before pieces text) {passed address after : List Char}
    (whole : text = passed ++ (address ++ after))
    (found : IsAddress (before ++ passed) address after) :
    ∃ front start back, pieces = front ++ .link (start ++ address) :: back ∧
      passed = front.flatMap Segment.source ++ start ∧ after = back.flatMap Segment.source := by
  induction cuts generalizing passed with
  | nil before =>
    obtain ⟨c, rest, rfl, -⟩ := found.exists_cons
    simp at whole
  | @plain before c pieces rest none goesOn ih =>
    cases passed with
    | nil => exact absurd (by simpa using found) (none address after whole)
    | cons d passed =>
      obtain ⟨rfl, rest⟩ := List.cons.inj whole
      obtain ⟨front, start, back, rfl, rfl, rfl⟩ := ih rest (by simpa using found)
      exact ⟨.plain c :: front, start, back, rfl, rfl, rfl⟩
  | @link before address' after' pieces first goesOn ih =>
    rcases List.append_eq_append_iff.mp whole with ⟨passed, rfl, rest⟩ | ⟨left, rfl, rest⟩
    · obtain ⟨front, start, back, rfl, rfl, rfl⟩ := ih rest (by simpa using found)
      exact ⟨.link address' :: front, start, back, rfl, by simp [Segment.source], rfl⟩
    · -- Both go on as far as they can.
      have inside : ∀ c ∈ left, isAddressChar c = true :=
        fun c among => first.chars c (List.mem_append_right _ among)
      have same := takeWhile_exact inside first.longest
      have others := dropWhile_exact inside first.longest
      rw [← rest, takeWhile_exact found.chars found.longest] at same
      rw [← rest, dropWhile_exact found.chars found.longest] at others
      subst same others
      exact ⟨[], passed, pieces, rfl, rfl, goesOn.source_eq.symm⟩

end CutsOut

end TreeTable.Markup
