import TreeTable.Proofs.Markup.Display

/-!
Where the links of converted texts go. Texts are clipped before addresses are looked for, so an
address over the cut goes on with the dots and what is kept behind them; all others stand in the
text.
-/

namespace TreeTable.Markup

def hrefs : List Char → List (List Char)
  | '<' :: 'a' :: ' ' :: 'h' :: 'r' :: 'e' :: 'f' :: '=' :: '"' :: rest =>
    rest.takeWhile (· != '"') :: hrefs rest
  | _ :: rest => hrefs rest
  | [] => []

theorem hrefs_of_unmarked {text : List Char} (unmarked : ∀ c ∈ text, isMark c = false)
    (rest : List Char) : hrefs (text ++ rest) = hrefs rest := by
  induction text with
  | nil => rfl
  | cons c text ih =>
    obtain ⟨first, others⟩ := List.forall_mem_cons.mp unmarked
    simp only [isMark, Bool.or_eq_false_iff, beq_eq_false_iff_ne] at first
    rw [List.cons_append, hrefs, ih others]
    intro _ opens
    exact absurd opens first.1.1.1

theorem hrefs_link (address rest : List Char) :
    hrefs ((Segment.link address).markup ++ rest) = escape address :: hrefs rest := by
  have opened : ∀ rest, hrefs ("<a href=\"".toList ++ rest) =
      rest.takeWhile (· != '"') :: hrefs rest := by
    simp [hrefs]
  have shown : ∀ rest, hrefs ("\">".toList ++ rest) = hrefs rest := fun _ => rfl
  have closed : ∀ rest, hrefs ("</a>".toList ++ rest) = hrefs rest := by
    simp [hrefs]
  have unmarked : ∀ c ∈ escape address, isMark c = false := fun c => isMark_of_mem_escape
  have inside : ∀ c ∈ escape address, (c != '"') = true := by
    intro c among
    have plain := unmarked c among
    simp only [isMark, Bool.or_eq_false_iff, beq_eq_false_iff_ne] at plain
    simpa using plain.1.2
  show hrefs ("<a href=\"".toList ++ escape address ++ "\">".toList ++ escape address ++
    "</a>".toList ++ rest) = escape address :: hrefs rest
  rw [List.append_assoc, List.append_assoc, List.append_assoc, List.append_assoc, opened,
    takeWhile_exact inside (by simp), hrefs_of_unmarked unmarked, shown,
    hrefs_of_unmarked unmarked, closed]

def targets (markup : List Char) : List (List Char) := (hrefs markup).map unescape

def addresses : List Segment → List (List Char)
  | [] => []
  | .plain _ :: segments => addresses segments
  | .link address :: segments => address :: addresses segments

theorem addresses_append (front back : List Segment) :
    addresses (front ++ back) = addresses front ++ addresses back := by
  induction front with
  | nil => rfl
  | cons segment front ih =>
    cases segment with
    | plain c => exact ih
    | link address => exact congrArg (address :: ·) ih

theorem exists_of_mem_addresses {segments : List Segment} {address : List Char}
    (among : address ∈ addresses segments) :
    ∃ front back, segments = front ++ .link address :: back := by
  induction segments with
  | nil => cases among
  | cons segment segments ih =>
    have later : address ∈ addresses segments →
        ∃ front back, segment :: segments = front ++ .link address :: back := by
      intro among
      obtain ⟨front, back, rfl⟩ := ih among
      exact ⟨segment :: front, back, rfl⟩
    cases segment with
    | plain c => exact later among
    | link first =>
      rcases List.mem_cons.mp among with rfl | among
      · exact ⟨[], segments, rfl⟩
      · exact later among

theorem targets_markup (segments : List Segment) :
    targets (segments.flatMap Segment.markup) = addresses segments := by
  induction segments with
  | nil => rfl
  | cons segment segments ih =>
    rw [List.flatMap_cons]
    cases segment with
    | plain c =>
      have unmarked : ∀ d ∈ entity c, isMark d = false :=
        fun d among => isMark_of_mem_escape (show d ∈ escape [c] by simpa using among)
      show targets (entity c ++ segments.flatMap Segment.markup) = addresses segments
      rw [targets, hrefs_of_unmarked unmarked]
      exact ih
    | link address =>
      rw [targets, hrefs_link, List.map_cons, unescape_escape]
      exact congrArg (address :: ·) ih

theorem infix_of_mem_addresses {segments : List Segment} {address : List Char}
    (among : address ∈ addresses segments) : address <:+: segments.flatMap Segment.source := by
  obtain ⟨front, back, rfl⟩ := exists_of_mem_addresses among
  exact ⟨front.flatMap Segment.source, back.flatMap Segment.source, by simp [Segment.source]⟩

/-- A text ends inside an address, or just behind its scheme. -/
def EndsInAddress (front start : List Char) : Prop :=
  ∃ before, front = before ++ start ∧ WordEdge before start ∧
    ∃ scheme ∈ schemes, ∃ body, start = scheme ++ body ∧ ∀ c ∈ body, isAddressChar c = true

theorem wordEdge_append {before start : List Char} (begun : start ≠ []) (rest : List Char) :
    WordEdge before (start ++ rest) ↔ WordEdge before start := by
  cases start with
  | nil => exact absurd rfl begun
  | cons c start => rfl

theorem EndsInAddress.ne_nil {front start : List Char} (ends : EndsInAddress front start) :
    start ≠ [] := by
  obtain ⟨before, -, -, scheme, among, body, rfl, -⟩ := ends
  have word := (schemes_spelled scheme among).1
  cases scheme with
  | nil => cases word
  | cons c scheme => exact List.cons_ne_nil c _

theorem eq_of_mem_dots {c : Char} (among : c ∈ dots) : c = '.' := by
  simpa [dots] using among

theorem exists_cons_of_dots {behind back rest : List Char} (some : behind ≠ [])
    (whole : dots ++ back = behind ++ rest) : ∃ behind', behind = '.' :: behind' := by
  cases behind with
  | nil => exact absurd rfl some
  | cons c behind =>
    obtain ⟨rfl, -⟩ := List.cons.inj whole
    exact ⟨behind, rfl⟩

namespace IsAddress

variable {before start behind address after passed back : List Char}

theorem endsInAddress (found : IsAddress before (start ++ '.' :: behind) after)
    (begun : start ≠ []) : EndsInAddress (before ++ start) start := by
  obtain ⟨scheme, among, body, -, inside, spelled⟩ := found.spelled
  have edge : WordEdge before start := by
    have edge := found.edge
    rwa [List.append_assoc, wordEdge_append begun] at edge
  refine ⟨before, rfl, edge, scheme, among, ?_⟩
  rcases List.append_eq_append_iff.mp spelled with ⟨left, rfl, rest⟩ | ⟨body', rfl, rfl⟩
  · cases left with
    | nil => exact ⟨[], by simp, by simp⟩
    | cons d left =>
      obtain ⟨rfl, -⟩ := List.cons.inj rest
      exact absurd (by simp) (schemes_spelled _ among).2.2
  · exact ⟨body', rfl, fun c within => inside c (List.mem_append_left _ within)⟩

theorem dots_prefix (found : IsAddress before address after)
    (whole : dots ++ back = passed ++ (address ++ after)) : dots <+: passed := by
  obtain ⟨scheme, among, body, -, -, rfl⟩ := found.spelled
  obtain ⟨word, -, undotted⟩ := schemes_spelled scheme among
  rcases List.append_eq_append_iff.mp whole with ⟨further, rfl, -⟩ | ⟨left, cut, rest⟩
  · exact List.prefix_append dots further
  · cases left with
    | nil => exact ⟨[], by simpa using cut⟩
    | cons d left =>
      cases scheme with
      | nil => cases word
      | cons c scheme =>
        obtain ⟨rfl, -⟩ := List.cons.inj rest
        obtain rfl := eq_of_mem_dots (by simp [cut] : c ∈ dots)
        exact absurd List.mem_cons_self undotted

end IsAddress

theorem EndsInAddress.isAddress {front start : List Char} (ends : EndsInAddress front start)
    (back : List Char) :
    ∃ before, front = before ++ start ∧
      IsAddress before (start ++ (dots ++ back.takeWhile isAddressChar))
        (back.dropWhile isAddressChar) := by
  have begun := ends.ne_nil
  obtain ⟨before, rfl, edge, scheme, among, body, rfl, inside⟩ := ends
  refine ⟨before, rfl, ?_, ?_, head?_dropWhile back⟩
  · rw [List.append_assoc]
    exact (wordEdge_append begun _).mpr edge
  · refine ⟨scheme, among, body ++ (dots ++ back.takeWhile isAddressChar), by simp [dots], ?_,
      by rw [List.append_assoc]⟩
    simp only [List.forall_mem_append]
    exact ⟨inside, fun c among => eq_of_mem_dots among ▸ rfl,
      List.all_eq_true.mp List.all_takeWhile⟩

variable {pieces : List Segment} {front back : List Char}

theorem IsAddress.infix_of_cut {before address after : List Char}
    (found : IsAddress before address after)
    (whole : before ++ (address ++ after) = front ++ (dots ++ back))
    (ends : ∀ start, ¬EndsInAddress front start) : address <:+: front ∨ address <:+: back := by
  rcases List.append_eq_append_iff.mp whole with ⟨left, rfl, rest⟩ | ⟨between, rfl, rest⟩
  · rcases List.append_eq_append_iff.mp rest with ⟨behind, rfl, -⟩ | ⟨later, rfl, dotted⟩
    · exact .inl ⟨before, behind, by simp⟩
    · by_cases some : later = []
      · subst some
        exact .inl ⟨before, [], by simp⟩
      by_cases begun : left = []
      · subst begun
        have none : dots <+: [] := found.dots_prefix dotted
        simp [dots] at none
      · obtain ⟨later, rfl⟩ := exists_cons_of_dots some dotted
        exact absurd (found.endsInAddress begun) (ends left)
  · obtain ⟨between, rfl⟩ := found.dots_prefix rest
    rw [List.append_assoc] at rest
    obtain rfl := List.append_cancel_left rest
    exact .inr ⟨between, after, by simp⟩

theorem infix_of_mem_cut (cuts : CutsOut [] pieces (front ++ (dots ++ back)))
    (ends : ∀ start, ¬EndsInAddress front start) :
    ∀ address ∈ addresses pieces, address <:+: front ∨ address <:+: back := by
  intro address among
  obtain ⟨passed, further, rfl⟩ := exists_of_mem_addresses among
  apply (cuts.isAddress rfl).infix_of_cut _ ends
  rw [← cuts.source_eq]
  simp [Segment.source]

theorem addresses_of_cut (cuts : CutsOut [] pieces (front ++ (dots ++ back)))
    (ends : ∃ start, EndsInAddress front start) :
    ∃ inFront start inBack, EndsInAddress front start ∧
      addresses pieces =
        inFront ++ (start ++ (dots ++ back.takeWhile isAddressChar)) :: inBack ∧
      (∀ address ∈ inFront, address <:+: front) ∧ ∀ address ∈ inBack, address <:+: back := by
  obtain ⟨start, ends⟩ := ends
  obtain ⟨before, rfl, found⟩ := ends.isAddress back
  obtain ⟨passed, earlier, further, rfl, rfl, rest⟩ := cuts.exists_link (by simp) found
  have crossing : IsAddress (passed.flatMap Segment.source)
      ((earlier ++ start) ++ (dots ++ back.takeWhile isAddressChar))
      (further.flatMap Segment.source) := by
    simpa using cuts.isAddress rfl
  refine ⟨addresses passed, earlier ++ start, addresses further, ?_, ?_, ?_, ?_⟩
  · rw [List.append_assoc]
    apply crossing.endsInAddress
    intro none
    have begun := ends.ne_nil
    simp_all
  · rw [addresses_append, List.append_assoc]
    rfl
  · intro address among
    apply (infix_of_mem_addresses among).trans
    exact ⟨[], earlier ++ start, by simp⟩
  · intro address among
    apply (infix_of_mem_addresses among).trans
    rw [← rest]
    exact (List.dropWhile_suffix isAddressChar).isInfix

/-- Links go where the text says. A text that is too long is cut before addresses are looked for:
if it is cut inside an address, one link goes to what is in front of the cut, the dots and what an
address may go on with behind them, and all others go where the text says. -/
theorem targets_of_converted (style : MarkupStyle) (limit : Int) (text : String) :
    let front := text.toList.take (keptFront limit.toNat)
    let back := text.toList.drop (text.toList.length - keptBack limit.toNat)
    let CutInAddress : Prop :=
      (0 < limit ∧ limit < text.toList.length) ∧ ∃ start, EndsInAddress front start
    ∃ written,
      (Delegate.markup
        { style with conversion := .escapeWithLinks, maxLength := .int limit }).convert
          (.text text) = .ok (.text (String.ofList written)) ∧
      (¬CutInAddress → ∀ target ∈ targets written, target <:+: text.toList) ∧
      (CutInAddress → ∃ inFront start inBack, EndsInAddress front start ∧
        targets written =
          inFront ++ (start ++ (dots ++ back.takeWhile isAddressChar)) :: inBack ∧
        ∀ target ∈ inFront ++ inBack, target <:+: text.toList) := by
  intro front back CutInAddress
  have cuts := segments_cutsOut false (clip limit text.toList) [] (.inl rfl)
  refine ⟨linkify (clip limit text.toList),
    convert_text style .escapeWithLinks limit text, ?_⟩
  rw [linkify, targets_markup]
  have ofFront : ∀ address, address <:+: front → address <:+: text.toList :=
    fun _ stands => stands.trans (List.take_prefix _ _).isInfix
  have ofBack : ∀ address, address <:+: back → address <:+: text.toList :=
    fun _ stands => stands.trans (List.drop_suffix _ _).isInfix
  by_cases tooLong : 0 < limit ∧ limit < text.toList.length
  · have clipped : clip limit text.toList = front ++ (dots ++ back) := by
      rw [clip, if_neg (by omega), cut, List.append_assoc]
    rw [clipped] at cuts ⊢
    constructor
    · intro whole address among
      have ends : ∀ start, ¬EndsInAddress front start := by
        intro start ends
        exact whole ⟨tooLong, start, ends⟩
      rcases infix_of_mem_cut cuts ends address among with stands | stands
      · exact ofFront address stands
      · exact ofBack address stands
    · rintro ⟨-, ends⟩
      obtain ⟨inFront, start, inBack, ends, linked, fronts, backs⟩ := addresses_of_cut cuts ends
      refine ⟨inFront, start, inBack, ends, linked, fun address among => ?_⟩
      rcases List.mem_append.mp among with among | among
      · exact ofFront address (fronts address among)
      · exact ofBack address (backs address among)
  · have unclipped : clip limit text.toList = text.toList := by
      rw [clip, if_pos (by omega)]
    rw [unclipped] at cuts ⊢
    refine ⟨fun _ address among => ?_, fun cutInside => absurd cutInside.1 tooLong⟩
    rw [← cuts.source_eq]
    exact infix_of_mem_addresses among

theorem target_not_in_text :
    let style : MarkupStyle := { conversion := .escapeWithLinks, maxLength := .int 20 }
    let text := "http://example.org/page"
    ∃ written,
      (Delegate.markup style).convert (.text text) = .ok (.text (String.ofList written)) ∧
        ∃ target ∈ targets written, ¬target <:+: text.toList := by
  intro style text
  have clipped : clip 20 text.toList = "http://ex...org/page".toList := by decide
  have found : segments false "http://ex...org/page".toList =
      [.link "http://ex...org/page".toList] := by
    decide +kernel
  have elsewhere : ¬"http://ex...org/page".toList <:+: text.toList := by decide +kernel
  refine ⟨linkify (clip 20 text.toList), convert_text style .escapeWithLinks 20 text,
    "http://ex...org/page".toList, ?_, elsewhere⟩
  rw [linkify, targets_markup, clipped, found]
  exact List.mem_cons_self

end TreeTable.Markup
