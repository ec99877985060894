import TreeTable.Proofs.Markup.Display

namespace TreeTable.Markup

/-- Dots stand for what is left out of the middle of a text. -/
def LeavesOut (text clipped : List Char) : Prop :=
  ∃ front middle back, middle ≠ [] ∧ text = front ++ middle ++ back ∧
    clipped = front ++ dots ++ back

variable {limit : Nat} {text : List Char}

theorem kept_lt (long : limit < text.length) : keptFront limit + keptBack limit < text.length := by
  unfold keptFront keptBack
  omega

theorem leavesOut_cut (long : limit < text.length) : LeavesOut text (cut limit text) := by
  have kept := kept_lt long
  let back := text.length - keptBack limit
  have between : keptFront limit ≤ back := by omega
  refine ⟨text.take (keptFront limit), (text.take back).drop (keptFront limit), text.drop back,
    ?_, ?_, rfl⟩
  · apply List.ne_nil_of_length_pos
    simp only [List.length_drop, List.length_take]
    omega
  · have front : text.take (keptFront limit) = (text.take back).take (keptFront limit) := by
      rw [List.take_take, Nat.min_eq_left between]
    rw [front, List.take_append_drop, List.take_append_drop]

theorem length_cut (long : limit < text.length) :
    (cut limit text).length = max dots.length (2 * (limit / 2)) := by
  have kept := kept_lt long
  have three : dots.length = 3 := rfl
  simp only [cut, List.length_append, List.length_take, List.length_drop, three]
  unfold keptFront keptBack at kept ⊢
  omega

theorem cut_of_lt_three (small : limit < 3) (text : List Char) : cut limit text = dots := by
  have front : keptFront limit = 0 := by
    unfold keptFront
    omega
  have back : keptBack limit = 0 := by
    unfold keptBack
    omega
  simp [cut, front, back]

theorem clip_of_lt (positive : 0 < limit) (long : limit < text.length) :
    clip limit text = cut limit text := by
  rw [clip, if_neg (by omega), Int.toNat_natCast]

theorem clip_of_le (fits : text.length ≤ limit) : clip limit text = text :=
  clip_of_length_le (Int.ofNat_le.mpr fits)

theorem length_clip_le (three : 3 ≤ limit) (text : List Char) :
    (clip limit text).length ≤ limit := by
  by_cases long : limit < text.length
  · rw [clip_of_lt (by omega) long, length_cut long]
    exact Nat.max_le.mpr ⟨three, by omega⟩
  · rw [clip_of_le (by omega)]
    omega

theorem clip_clip (positive : 0 < limit) (text : List Char) :
    clip limit (clip limit text) = clip limit text := by
  by_cases three : 3 ≤ limit
  · exact clip_of_le (length_clip_le three text)
  · by_cases long : limit < text.length
    · have longer : limit < dots.length := by
        have : dots.length = 3 := rfl
        omega
      have small := Nat.not_le.mp three
      rw [clip_of_lt positive long, cut_of_lt_three small, clip_of_lt positive longer,
        cut_of_lt_three small]
    · have same : clip limit text = text := clip_of_le (by omega)
      rw [same, same]

/-- A text that is converted as it is stays within the limit: it is left alone if it fits, and else
dots stand for a part of it, so that it fits from then on. Only where the limit has no room for the
dots themselves a longer text becomes the dots and nothing else. -/
theorem convert_clips (style : MarkupStyle) {limit : Nat} (positive : 0 < limit) (text : String) :
    let converts (given shown : String) : Prop :=
      (Delegate.markup { style with conversion := .asIs, maxLength := .int limit }).convert
        (.text given) = .ok (.text shown)
    ∃ clipped : String, converts text clipped ∧ converts clipped clipped ∧
      (text.length ≤ limit → clipped = text) ∧
      (limit < text.length → LeavesOut text.toList clipped.toList) ∧
      (3 ≤ limit → clipped.length ≤ limit) ∧
      (limit < 3 → limit < text.length → clipped = "...") := by
  intro converts
  have clipped (given : String) : converts given (String.ofList (clip limit given.toList)) :=
    convert_text style .asIs limit given
  refine ⟨String.ofList (clip limit text.toList), clipped text, ?again, ?fits, ?long, ?within,
    ?small⟩
  case again =>
    have again := clipped (String.ofList (clip limit text.toList))
    rwa [String.toList_ofList, clip_clip positive] at again
  case fits =>
    intro fits
    rw [clip_of_le (String.length_toList ▸ fits), String.ofList_toList]
  case long =>
    intro long
    rw [← String.length_toList] at long
    rw [String.toList_ofList, clip_of_lt positive long]
    exact leavesOut_cut long
  case within =>
    intro three
    rw [String.length_ofList]
    exact length_clip_le three text.toList
  case small =>
    intro small long
    rw [← String.length_toList] at long
    rw [clip_of_lt positive long, cut_of_lt_three small]
    rfl

theorem convert_clips_odd :
    0 < 7 ∧ ∃ clipped : String,
      (Delegate.markup { conversion := .asIs, maxLength := .int 7 }).convert
        (.text "https://") = .ok (.text clipped) ∧
      LeavesOut "https://".toList clipped.toList ∧ clipped.length ≤ 7 := by
  obtain ⟨clipped, converts, -, -, leaves, within, -⟩ :=
    convert_clips {} (by decide : 0 < 7) "https://"
  exact ⟨by decide, clipped, converts, leaves (by decide), within (by decide)⟩

theorem dots_beyond_limit :
    (Delegate.markup { conversion := .asIs, maxLength := .int 1 }).convert (.text "ab") =
      .ok (.text "...") ∧ 1 < "...".length ∧ "ab".length < "...".length :=
  ⟨rfl, by decide, by decide⟩

end TreeTable.Markup
