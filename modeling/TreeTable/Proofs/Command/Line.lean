import TreeTable.Command.Run
import TreeTable.Proofs.Outcome

namespace TreeTable.Command

/-- The words behind `render` change the request on their left to the one on their right. -/
inductive Sets : Request → List String → Request → Prop
  | nothing {request : Request} : Sets request [] request
  | file {request final : Request} {name : String} {rest : List String}
      (unnamed : request.file = none) (plain : name.toList.head? ≠ some '-')
      (sets : Sets { request with file := some name } rest final) :
      Sets request (name :: rest) final
  | noHeaders {request final : Request} {rest : List String}
      (sets : Sets { request with noHeaders := true } rest final) :
      Sets request ("--no-headers" :: rest) final
  | rowHeaders {request final : Request} {rest : List String}
      (sets : Sets { request with rowHeaders := true } rest final) :
      Sets request ("--row-headers" :: rest) final
  | maxRows {request final : Request} {text : String} {rows : Int} {rest : List String}
      (counts : Integer.read? text.toList = some rows) (plain : text.toList.head? ≠ some '-')
      (sets : Sets { request with maxRows := some (.int rows) } rest final) :
      Sets request ("--max-rows" :: text :: rest) final
  | maxRowsJoined {request final : Request} {text : String} {rows : Int} {rest : List String}
      (counts : Integer.read? text.toList = some rows)
      (sets : Sets { request with maxRows := some (.int rows) } rest final) :
      Sets request (("--max-rows=" ++ text) :: rest) final
  | separator {request final : Request} {text : String} {rest : List String}
      (plain : text.toList.head? ≠ some '-')
      (sets : Sets { request with separator := some (.text text) } rest final) :
      Sets request ("--separator" :: text :: rest) final
  | separatorJoined {request final : Request} {text : String} {rest : List String}
      (spoken : text ≠ "--")
      (sets : Sets { request with separator := some (.text text) } rest final) :
      Sets request (("--separator=" ++ text) :: rest) final

namespace Grammar

variable {grammar : Grammar} {words : List String} {marked : Marked}

theorem mark_of_plain {text : String} (plain : text.toList.head? ≠ some '-') :
    grammar.mark text = .ok .argument := by
  rw [Grammar.mark, if_pos plain]

structure Marks (grammar : Grammar) (words : List String) (marked : Marked) : Prop where
  eq_ok : grammar.marks words = .ok marked
  words_eq : marked.map Prod.fst = words
  noDashes : ∀ word ∈ marked, word.2 ≠ .dashes

theorem Marks.nil : grammar.Marks [] [] := ⟨rfl, rfl, nofun⟩

theorem Marks.cons (marks : grammar.Marks words marked) {word : String} {mark : Mark}
    (noDashes : word ≠ "--") (eq_ok : grammar.mark word = .ok mark) (alone : mark ≠ .dashes) :
    grammar.Marks (word :: words) ((word, mark) :: marked) where
  eq_ok := by
    rw [Grammar.marks]
    · rw [eq_ok, marks.eq_ok]
      rfl
    · exact noDashes
  words_eq := by rw [List.map_cons, marks.words_eq]
  noDashes := List.forall_mem_cons.mpr ⟨alone, marks.noDashes⟩

theorem mark_comes {text : String} (few : (grammar.candidates text.toList).length ≤ 1) :
    ∃ mark, grammar.mark text = .ok mark ∧ mark ≠ .dashes := by
  unfold Grammar.mark
  dsimp only
  split
  · exact ⟨_, rfl, by simp⟩
  · split
    · exact ⟨_, rfl, by simp⟩
    · split
      · exact ⟨_, rfl, by simp⟩
      · split
        · exact ⟨_, rfl, by simp⟩
        · split
          · exact ⟨_, rfl, by simp⟩
          · split <;> exact ⟨_, rfl, by simp⟩
          · rename_i _ one none
            match found : grammar.candidates text.toList with
            | [] => exact absurd found none
            | [(spelling, given)] => exact absurd found (one spelling given)
            | _ :: _ :: _ => simp [found] at few

theorem mark_spelling {spelling : String} {switch : Switch}
    (known : grammar.spelling? spelling.toList = some (spelling, switch))
    (long : spelling.toList.head? = some '-') :
    grammar.mark spelling = .ok (.switch (some ⟨switch, isShort spelling, none⟩)) := by
  unfold Grammar.mark
  dsimp only
  rw [if_neg (by simp [long]), known]

theorem Marks.exists_cons (marks : grammar.Marks words marked) {word : String}
    (spoken : word ≠ "--") (few : (grammar.candidates word.toList).length ≤ 1) :
    ∃ marked, grammar.Marks (word :: words) marked := by
  obtain ⟨mark, eq_ok, alone⟩ := mark_comes few
  exact ⟨_, marks.cons spoken eq_ok alone⟩

theorem splitAtEquals_append {start : List Char} (bare : '=' ∉ start) (text : List Char) :
    splitAtEquals (start ++ '=' :: text) = (start, some text) := by
  have apart : ∀ c ∈ start, decide (c ≠ '=') = true := fun c among =>
    decide_eq_true fun same => bare (same ▸ among)
  rw [splitAtEquals, List.dropWhile_append_of_pos apart, List.takeWhile_append_of_pos apart]
  simp

theorem mark_joined {spelling : String} {switch : Switch}
    (known : grammar.spelling? spelling.toList = some (spelling, switch))
    (long : spelling.toList.head? = some '-')
    (bare : ∀ entry ∈ grammar.spelled, '=' ∉ entry.1.toList) (text : String) :
    grammar.mark (spelling ++ "=" ++ text) =
      .ok (.switch (some ⟨switch, isShort spelling, some text⟩)) := by
  have among := List.mem_of_find?_eq_some known
  obtain ⟨rest, spelled⟩ := List.head?_eq_some_iff.mp long
  have word : (spelling ++ "=" ++ text).toList = spelling.toList ++ '=' :: text.toList := by
    simp
  have unknown : grammar.spelling? (spelling.toList ++ '=' :: text.toList) = none := by
    refine List.find?_eq_none.mpr fun entry listed same => bare entry listed ?_
    rw [beq_iff_eq.mp same]
    simp
  unfold Grammar.mark
  rw [word]
  dsimp only
  rw [unknown, splitAtEquals_append (bare _ among), if_neg (by simp [spelled])]
  dsimp only
  rw [if_neg (by simp [spelled]), known]
  simp

theorem candidates_joined {spelling : String} {rest : List Char}
    (long : spelling.toList = '-' :: '-' :: rest) (bare : '=' ∉ spelling.toList) (text : String) :
    (grammar.candidates (spelling ++ "=" ++ text).toList).length =
      (grammar.spelled.filter fun entry =>
        spelling.toList.isPrefixOf entry.1.toList).length := by
  have word : (spelling ++ "=" ++ text).toList = spelling.toList ++ '=' :: text.toList := by
    simp
  have split := splitAtEquals_append bare text.toList
  rw [word]
  rw [long] at split ⊢
  rw [List.cons_append, List.cons_append] at split ⊢
  rw [candidates, split]
  exact List.length_map _

end Grammar

structure Finds (marked : Marked) (request final : Request) : Prop where
  reads : ∀ reading : Reading, reading.operandSeen = request.file.isSome →
    ∃ findings, readMarked renderGrammar marked reading =
        { reading with
          findings := reading.findings ++ findings
          operandSeen := final.file.isSome } ∧
      findings.foldlM Request.takeRender request = .ok final

theorem Finds.nil {request : Request} : Finds [] request request where
  reads reading seen := by
    refine ⟨[], ?_, rfl⟩
    rw [readMarked, List.append_nil, ← seen]

theorem Finds.switch {word : String} {given : Given} {behind marked : Marked} {switch : Switch}
    {arguments : List String} {count : Nat} {request between final : Request}
    (unfolds : unfold renderGrammar behind (word.length + 1) given =
      .ok ([.switch switch arguments], count))
    (follows : behind.drop count = marked)
    (takes : request.takeRender (.switch switch arguments) = .ok between)
    (same : between.file = request.file) (finds : Finds marked between final) :
    Finds ((word, .switch (some given)) :: behind) request final where
  reads reading seen := by
    obtain ⟨findings, read, folded⟩ := finds.reads (reading.add [.switch switch arguments])
      (by rw [same, ← seen]; rfl)
    refine ⟨.switch switch arguments :: findings, ?_, ?_⟩
    · rw [readMarked, unfolds]
      dsimp only
      rw [follows, read, Reading.add, List.append_assoc]
      rfl
    · rw [List.foldlM_cons, takes]
      exact folded

theorem Finds.file {name : String} {marked : Marked} {request final : Request}
    (unnamed : request.file = none) (spoken : name ≠ "--")
    (noDashes : ∀ word ∈ marked, word.2 ≠ .dashes)
    (finds : Finds marked { request with file := some name } final) :
    Finds ((name, .argument) :: marked) request final where
  reads reading seen := by
    obtain ⟨findings, read, folded⟩ := finds.reads
      { reading.add [.operand [name]] with operandSeen := true } rfl
    have unseen : reading.operandSeen = false := by rw [seen, unnamed]; rfl
    have alone : marked.takeWhile (fun word => word.2 == .dashes) = [] := by
      cases marked with
      | nil => rfl
      | cons word rest =>
        rw [List.takeWhile_cons_of_neg]
        simpa using noDashes word List.mem_cons_self
    have length : operandLength? renderGrammar.operand ((name, .argument) :: marked) = some 1 := by
      simp [operandLength?, renderGrammar, alone]
    have values : operandValues renderGrammar.operand [name] = [name] :=
      List.erase_of_not_mem (by simpa using spoken.symm)
    have taken : takeOperand renderGrammar ((name, .argument) :: marked) reading =
        some (1, { reading.add [.operand [name]] with operandSeen := true }) := by
      rw [takeOperand, unseen, length]
      simp [values]
    refine ⟨.operand [name] :: findings, ?_, ?_⟩
    · rw [readMarked]
      simp only [taken]
      rw [Nat.sub_self, List.drop_zero, read, Reading.add, List.append_assoc]
      rfl
    · rw [List.foldlM_cons, Request.takeRender]
      exact folded

theorem ne_dashes_of_plain {text : String} (plain : text.toList.head? ≠ some '-') :
    text ≠ "--" := by
  rintro rfl
  exact plain rfl

variable {request final : Request} {words : List String}

theorem takeRender_maxRows {text : String} {rows : Int}
    (counts : Integer.read? text.toList = some rows) :
    request.takeRender (.switch maxRowsSwitch [text]) =
      .ok { request with maxRows := some (.int rows) } := by
  rw [Request.takeRender, if_neg (by decide), if_pos rfl]
  simp only [setting, counts]

theorem renderGrammar_bare : ∀ entry ∈ renderGrammar.spelled, '=' ∉ entry.1.toList := by decide

def Changes (words : List String) (request final : Request) : Prop :=
  (∃ marked, topGrammar.Marks words marked) ∧
    ∃ marked, renderGrammar.Marks words marked ∧ Finds marked request final

namespace Changes

variable {between : Request} {spelling text : String} {switch : Switch}

theorem nil : Changes [] request request := ⟨⟨[], .nil⟩, [], .nil, .nil⟩

theorem file {name : String} (unnamed : request.file = none)
    (plain : name.toList.head? ≠ some '-')
    (changes : Changes words { request with file := some name } final) :
    Changes (name :: words) request final := by
  obtain ⟨⟨_, top⟩, _, marks, finds⟩ := changes
  have spoken := ne_dashes_of_plain plain
  have argument {grammar : Grammar} := grammar.mark_of_plain plain
  exact ⟨⟨_, top.cons spoken argument nofun⟩, _, marks.cons spoken argument nofun,
    finds.file unnamed spoken marks.noDashes⟩

theorem flag (known : renderGrammar.spelling? spelling.toList = some (spelling, switch))
    (long : spelling.toList.head? = some '-') (bare : switch.arity = .none)
    (spoken : spelling ≠ "--") (few : (topGrammar.candidates spelling.toList).length ≤ 1)
    (takes : request.takeRender (.switch switch []) = .ok between)
    (same : between.file = request.file) (changes : Changes words between final) :
    Changes (spelling :: words) request final := by
  obtain ⟨⟨_, top⟩, _, marks, finds⟩ := changes
  refine ⟨top.exists_cons spoken few, _,
    marks.cons spoken (Grammar.mark_spelling known long) nofun, ?_⟩
  refine finds.switch ?_ List.drop_zero takes same
  obtain ⟨_, arity⟩ := switch
  obtain rfl : arity = .none := bare
  rfl

theorem option (known : renderGrammar.spelling? spelling.toList = some (spelling, switch))
    (long : spelling.toList.head? = some '-') (one : switch.arity = .one)
    (spoken : spelling ≠ "--") (few : (topGrammar.candidates spelling.toList).length ≤ 1)
    (plain : text.toList.head? ≠ some '-')
    (takes : request.takeRender (.switch switch [text]) = .ok between)
    (same : between.file = request.file) (changes : Changes words between final) :
    Changes (spelling :: text :: words) request final := by
  obtain ⟨⟨_, top⟩, marked, marks, finds⟩ := changes
  have apart := ne_dashes_of_plain plain
  have argument {grammar : Grammar} := grammar.mark_of_plain plain
  refine ⟨(top.cons apart argument nofun).exists_cons spoken few, _,
    (marks.cons apart argument nofun).cons spoken (Grammar.mark_spelling known long) nofun, ?_⟩
  have follows : ((text, .argument) :: marked).drop 1 = marked := rfl
  refine finds.switch ?_ follows takes same
  obtain ⟨_, arity⟩ := switch
  obtain rfl : arity = .one := one
  rfl

theorem joined (known : renderGrammar.spelling? spelling.toList = some (spelling, switch))
    {letters : List Char} (long : spelling.toList = '-' :: '-' :: letters)
    (one : switch.arity = .one) (foreign : (topGrammar.spelled.filter fun entry =>
      spelling.toList.isPrefixOf entry.1.toList) = []) (spoken : text ≠ "--")
    (takes : request.takeRender (.switch switch [text]) = .ok between)
    (same : between.file = request.file) (changes : Changes words between final) :
    Changes ((spelling ++ "=" ++ text) :: words) request final := by
  obtain ⟨⟨_, top⟩, marked, marks, finds⟩ := changes
  have bare := renderGrammar_bare _ (List.mem_of_find?_eq_some known)
  have apart : spelling ++ "=" ++ text ≠ "--" := by
    intro same
    have sign : '=' ∈ (spelling ++ "=" ++ text).toList := by simp
    rw [same] at sign
    exact absurd sign (by decide)
  have few : (topGrammar.candidates (spelling ++ "=" ++ text).toList).length ≤ 1 := by
    rw [Grammar.candidates_joined long bare, foreign]
    exact Nat.zero_le 1
  have mark := Grammar.mark_joined known (by rw [long]; rfl) renderGrammar_bare text
  refine ⟨top.exists_cons apart few, _, marks.cons apart mark nofun, ?_⟩
  refine finds.switch ?_ List.drop_zero takes same
  obtain ⟨_, arity⟩ := switch
  obtain rfl : arity = .one := one
  rw [unfold, attachedArguments, if_neg spoken]
  rfl

end Changes

theorem Sets.changes (sets : Sets request words final) : Changes words request final := by
  induction sets with
  | nothing => exact .nil
  | file unnamed plain _ ih => exact .file unnamed plain ih
  | noHeaders _ ih => exact .flag rfl rfl rfl (by decide) (by decide) rfl rfl ih
  | rowHeaders _ ih => exact .flag rfl rfl rfl (by decide) (by decide) rfl rfl ih
  | maxRows counts plain _ ih =>
    exact .option rfl rfl rfl (by decide) (by decide) plain (takeRender_maxRows counts) rfl ih
  | separator plain _ ih =>
    exact .option rfl rfl rfl (by decide) (by decide) plain rfl rfl ih
  | @maxRowsJoined _ _ text _ _ counts _ ih =>
    have spoken : text ≠ "--" := by
      rintro rfl
      cases counts
    have spelled : renderGrammar.spelling? "--max-rows".toList =
      some ("--max-rows", maxRowsSwitch) := rfl
    exact .joined spelled rfl rfl (by decide) spoken (takeRender_maxRows counts) rfl ih
  | separatorJoined spoken _ ih =>
    have spelled : renderGrammar.spelling? "--separator".toList =
      some ("--separator", separatorSwitch) := rfl
    exact .joined spelled rfl rfl (by decide) spoken rfl rfl ih

theorem ofRender_of_sets (sets : Sets request words final) (unnamed : request.file = none)
    (named : final.file.isSome) : Request.ofRender request words = .ok (final, []) := by
  obtain ⟨-, marked, marks, finds⟩ := sets.changes
  obtain ⟨findings, read, folded⟩ := finds.reads {} (by rw [unnamed]; rfl)
  rw [Request.ofRender, Command.read, marks.eq_ok]
  simp only [read, List.nil_append, folded, named, ok_bind]
  rfl

theorem readMarked_command {marked : Marked} (reading : Reading)
    (unseen : reading.operandSeen = false) :
    readMarked topGrammar (("render", .argument) :: marked) reading =
      { reading with
        findings := reading.findings ++ [.operand ("render" :: marked.map Prod.fst)]
        operandSeen := true } := by
  have whole : (marked.map Prod.fst).take marked.length = marked.map Prod.fst :=
    List.take_of_length_le (by simp)
  have taken : takeOperand topGrammar (("render", .argument) :: marked) reading =
      some (marked.length + 1, { reading.add [.operand ("render" :: marked.map Prod.fst)] with
        operandSeen := true }) := by
    rw [takeOperand, unseen]
    simp [operandLength?, operandValues, topGrammar, whole]
  rw [readMarked]
  simp only [taken]
  rw [Nat.add_sub_cancel, List.drop_length, readMarked]
  rfl

theorem read_command {marked : Marked} {format : String}
    (plain : format.toList.head? ≠ some '-') (marks : topGrammar.Marks words marked) :
    read topGrammar ("--format" :: format :: "render" :: words) =
      { findings := [.switch formatSwitch [format], .operand ("render" :: words)],
        operandSeen := true } := by
  have argument {text : String} (plain : text.toList.head? ≠ some '-') :=
    topGrammar.mark_of_plain plain
  have command : topGrammar.Marks ("render" :: words) (("render", .argument) :: marked) :=
    marks.cons (by decide) (argument (by decide)) nofun
  have behind := command.cons (ne_dashes_of_plain plain) (argument plain) nofun
  have spelled : topGrammar.mark "--format" = .ok (.switch (some ⟨formatSwitch, false, none⟩)) :=
    rfl
  have whole := behind.cons (by decide) spelled nofun
  have taken : unfold topGrammar ((format, .argument) :: ("render", .argument) :: marked)
      ("--format".length + 1) ⟨formatSwitch, false, none⟩ =
        .ok ([.switch formatSwitch [format]], 1) := rfl
  rw [Command.read, whole.eq_ok]
  dsimp only
  rw [readMarked, taken]
  dsimp only
  rw [List.drop_one, List.tail_cons, readMarked_command _ rfl, marks.words_eq]
  rfl

theorem plan_of_sets {format : Format} {file : String}
    (sets : Sets { format := .text format.key } words request) (named : request.file = some file)
    (spoken : file ≠ "") :
    plan ("--format" :: format.key :: "render" :: words) = .needs file request := by
  obtain ⟨⟨_, top⟩, -⟩ := sets.changes
  have plain : format.key.toList.head? ≠ some '-' := by cases format <;> decide
  have known : Format.keys.contains format.key = true := by cases format <;> decide
  have inner := ofRender_of_sets sets rfl (by rw [named]; rfl)
  have chosen : Request.takeTop {} (.switch formatSwitch [format.key]) =
      .ok { request := { format := .text format.key } } := by
    rw [Request.takeTop, if_neg (by decide), if_neg (by decide)]
    simp only [setting, known, if_true]
  have taken : Request.takeTop { request := { format := .text format.key } }
      (.operand ("render" :: words)) = .ok { request, named := true } := by
    rw [Request.takeTop]
    simp only [List.headD_cons, List.drop_one, List.tail_cons, if_true, inner, ok_bind]
    rfl
  have asked : Request.ofLine ("--format" :: format.key :: "render" :: words) =
      .ok (some request) := by
    rw [Request.ofLine, read_command plain top]
    simp only [List.foldlM_cons, List.foldlM_nil, chosen, taken, ok_bind]
    rfl
  rw [plan, asked]
  simp only [named]

end TreeTable.Command
