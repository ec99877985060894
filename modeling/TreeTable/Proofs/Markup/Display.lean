import TreeTable.Proofs.Delegate
import TreeTable.Proofs.Markup.Address
import TreeTable.Proofs.Markup.Mark

/-!
What is seen of converted texts. Markup is read back without its tags and with its entities decoded
in one pass: the clipped text is seen, and the addresses in it are links.
-/

namespace TreeTable.Markup

def unescape : List Char → List Char
  | '&' :: 'a' :: 'm' :: 'p' :: ';' :: rest => '&' :: unescape rest
  | '&' :: 'l' :: 't' :: ';' :: rest => '<' :: unescape rest
  | '&' :: 'g' :: 't' :: ';' :: rest => '>' :: unescape rest
  | '&' :: 'q' :: 'u' :: 'o' :: 't' :: ';' :: rest => '"' :: unescape rest
  | '&' :: '#' :: '3' :: '9' :: ';' :: rest => '\'' :: unescape rest
  | c :: rest => c :: unescape rest
  | [] => []

theorem unescape_entity (c : Char) (rest : List Char) :
    unescape (entity c ++ rest) = c :: unescape rest := by
  unfold entity
  split
  · rfl
  · rfl
  · rfl
  · rfl
  · rfl
  · next amp lt gt quot apos =>
    rw [List.singleton_append, unescape]
    all_goals
      intro _ same
      exact absurd same amp

theorem unescape_escape_append (text rest : List Char) :
    unescape (escape text ++ rest) = text ++ unescape rest := by
  induction text with
  | nil => rfl
  | cons c text ih => rw [escape_cons, List.append_assoc, unescape_entity, ih, List.cons_append]

theorem unescape_escape (text : List Char) : unescape (escape text) = text := by
  simpa [unescape] using unescape_escape_append text []

def untag (inTag : Bool) : List Char → List Char
  | [] => []
  | '<' :: rest => untag true rest
  | '>' :: rest => untag false rest
  | c :: rest => if inTag then untag inTag rest else c :: untag inTag rest

theorem untag_of_unmarked {text : List Char} (unmarked : ∀ c ∈ text, isMark c = false)
    (inTag : Bool) (rest : List Char) :
    untag inTag (text ++ rest) = (if inTag then [] else text) ++ untag inTag rest := by
  induction text with
  | nil => simp
  | cons c text ih =>
    obtain ⟨first, others⟩ := List.forall_mem_cons.mp unmarked
    simp only [isMark, Bool.or_eq_false_iff, beq_eq_false_iff_ne] at first
    rw [List.cons_append, untag, ih others]
    · cases inTag <;> rfl
    · exact fun opens => first.1.1.1 opens
    · exact fun closes => first.1.1.2 closes

inductive Stretch where
  | text (written : List Char)
  | link (target label : List Char)

namespace Stretch

def markup : Stretch → List Char
  | .text written => written
  | .link target label =>
    "<a href=\"".toList ++ target ++ "\">".toList ++ label ++ "</a>".toList

def label : Stretch → List Char
  | .text written => written
  | .link _ label => label

def Unmarked : Stretch → Prop
  | .text written => ∀ c ∈ written, isMark c = false
  | .link target label => ∀ c ∈ target ++ label, isMark c = false

theorem untag_markup {stretch : Stretch} (unmarked : stretch.Unmarked) (rest : List Char) :
    untag false (stretch.markup ++ rest) = stretch.label ++ untag false rest := by
  cases stretch with
  | text written =>
    show untag false (written ++ rest) = written ++ untag false rest
    rw [untag_of_unmarked unmarked]
    rfl
  | link target label =>
    obtain ⟨target', label'⟩ := List.forall_mem_append.mp unmarked
    have opened : ∀ rest, untag false ("<a href=\"".toList ++ rest) = untag true rest := by
      simp [untag]
    have shown : ∀ rest, untag true ("\">".toList ++ rest) = untag false rest := fun _ => rfl
    have closed : ∀ rest, untag false ("</a>".toList ++ rest) = untag false rest := fun _ => rfl
    show untag false ("<a href=\"".toList ++ target ++ "\">".toList ++ label ++ "</a>".toList ++
      rest) = label ++ untag false rest
    rw [List.append_assoc, List.append_assoc, List.append_assoc, List.append_assoc, opened,
      untag_of_unmarked target', shown, untag_of_unmarked label', closed]
    rfl

end Stretch

def displayed (stretches : List Stretch) : List Char :=
  unescape (untag false (stretches.flatMap Stretch.markup))

/-- Markup displays a text and makes the addresses in it links, and nothing else. -/
structure DisplaysLinked (stretches : List Stretch) (text : List Char) : Prop where
  unmarked : ∀ stretch ∈ stretches, stretch.Unmarked
  displays : displayed stretches = text
  targets : ∀ front target label back, stretches = front ++ .link target label :: back →
    target = label ∧ text = displayed front ++ unescape target ++ displayed back ∧
      IsAddress (displayed front) (unescape target) (displayed back)
  passesNone : ∀ before address after, text = before ++ address ++ after →
    IsAddress before address after →
      ∃ front start target label back, stretches = front ++ .link target label :: back ∧
        before = displayed front ++ start ∧ unescape target = start ++ address

def Segment.stretch : Segment → Stretch
  | .plain c => .text (entity c)
  | .link address => .link (escape address) (escape address)

namespace Segment

theorem stretch_markup (segment : Segment) : segment.stretch.markup = segment.markup := by
  cases segment <;> rfl

theorem stretch_unmarked (segment : Segment) : segment.stretch.Unmarked := by
  cases segment with
  | plain c =>
    intro d among
    have escaped : d ∈ escape [c] := by simpa using among
    exact isMark_of_mem_escape escaped
  | link address =>
    intro c among
    rcases List.mem_append.mp among with among | among
    · exact isMark_of_mem_escape among
    · exact isMark_of_mem_escape among

theorem markup_stretches (segments : List Segment) :
    (segments.map stretch).flatMap Stretch.markup = segments.flatMap markup := by
  rw [List.flatMap_map]
  exact congrArg (List.flatMap · segments) (funext stretch_markup)

theorem unescape_stretch (segment : Segment) (rest : List Char) :
    unescape (segment.stretch.label ++ rest) = segment.source ++ unescape rest := by
  cases segment with
  | plain c => exact unescape_entity c rest
  | link address => exact unescape_escape_append address rest

theorem displayed_stretches (segments : List Segment) :
    displayed (segments.map stretch) = segments.flatMap source := by
  have untagged : untag false ((segments.map stretch).flatMap Stretch.markup) =
      (segments.map stretch).flatMap Stretch.label := by
    induction segments with
    | nil => rfl
    | cons segment segments ih =>
      rw [List.map_cons, List.flatMap_cons, Stretch.untag_markup segment.stretch_unmarked, ih,
        List.flatMap_cons]
  rw [displayed, untagged]
  clear untagged
  induction segments with
  | nil => rfl
  | cons segment segments ih =>
    rw [List.map_cons, List.flatMap_cons, unescape_stretch, ih, List.flatMap_cons]

end Segment

theorem displaysLinked {segments : List Segment} {text : List Char}
    (cuts : CutsOut [] segments text) : DisplaysLinked (segments.map Segment.stretch) text where
  unmarked := List.forall_mem_map.mpr fun segment _ => segment.stretch_unmarked
  displays := by rw [Segment.displayed_stretches, cuts.source_eq]
  targets := by
    intro front target label back stands
    obtain ⟨front, others, rfl, rfl, rest⟩ := List.map_eq_append_iff.mp stands
    obtain ⟨segment, back, rfl, link, rfl⟩ := List.map_eq_cons_iff.mp rest
    cases segment with
    | plain c => cases link
    | link address =>
      cases link
      rw [Segment.displayed_stretches, Segment.displayed_stretches, unescape_escape]
      refine ⟨rfl, ?_, cuts.isAddress rfl⟩
      rw [← cuts.source_eq]
      simp [Segment.source]
  passesNone := by
    intro before address after whole found
    rw [List.append_assoc] at whole
    obtain ⟨front, start, back, rfl, rfl, rfl⟩ := cuts.exists_link whole found
    refine ⟨front.map Segment.stretch, start, escape (start ++ address),
      escape (start ++ address), back.map Segment.stretch, by simp [Segment.stretch], ?_, ?_⟩
    · rw [Segment.displayed_stretches]
    · exact unescape_escape (start ++ address)

theorem convert_text (style : MarkupStyle) (conversion : Conversion) (limit : Int)
    (text : String) :
    (Delegate.markup { style with conversion, maxLength := .int limit }).convert (.text text) =
      .ok (.text (String.ofList (conversion.apply (clip limit text.toList)))) :=
  congrArg (Except.map Value.text) (MarkupStyle.convertText_of_int rfl text)

/-- Converted texts display the clipped text and nothing else. Where addresses become links, they
are those of the clipped text: each link goes to the address that is seen, and wherever an address
begins there is a link. -/
theorem convert_displays_clipped (style : MarkupStyle) (limit : Int) (text : String) :
    let clipped := clip limit text.toList
    let converts (conversion : Conversion) (written : List Char) : Prop :=
      (Delegate.markup { style with conversion, maxLength := .int limit }).convert (.text text) =
        .ok (.text (String.ofList written))
    (∃ written, converts .escape written ∧ (∀ c ∈ written, isMark c = false) ∧
      unescape written = clipped) ∧
    ∃ stretches, converts .escapeWithLinks (stretches.flatMap Stretch.markup) ∧
      DisplaysLinked stretches clipped := by
  intro clipped converts
  have converted : ∀ conversion, converts conversion (conversion.apply clipped) :=
    fun conversion => convert_text style conversion limit text
  constructor
  · exact ⟨escape clipped, converted .escape, fun c among => isMark_of_mem_escape among,
      unescape_escape clipped⟩
  · refine ⟨(segments false clipped).map Segment.stretch, ?_,
      displaysLinked (segments_cutsOut false clipped [] (.inl rfl))⟩
    rw [Segment.markup_stretches]
    exact converted .escapeWithLinks

end TreeTable.Markup
