import TreeTable.Proofs.Command.Line
import TreeTable.Proofs.Command.Show

namespace TreeTable.Command

structure Holds (host : Host) (bytes : ByteArray) (document : Value) : Prop where
  read : ∃ content, String.fromUTF8? bytes = some content ∧
    Json.read host.jsonLevels (normalizeLines content.toList) = .ok document

variable {words : List String} {host : Host} {file : String} {request : Request} {format : Format}
  {bytes : ByteArray} {document value : Value} {tree other : Tree} {text : String}

theorem run_of_needs (planned : plan words = .needs file request)
    (stored : host.files file = some bytes) :
    run words host = showFile host file request (some bytes) := by
  rw [run, planned, ← stored]

theorem showFile_of_holds (holds : Holds host bytes document) :
    showFile host file request (some bytes) = showValue host file request document := by
  obtain ⟨content, decoded, read⟩ := holds.read
  simp only [showFile, decoded, read]

theorem treeFor_eq (chosen : request.format = .text format.key) (document : Value) :
    treeFor host request document = Tree.ofValue host.rowLevels document := by
  rw [treeFor, create_eq chosen, ok_bind]

theorem isText_of_rendered
    (rendered : ((serializerFor request format).serialize (some (.tree tree none))).outcome =
      .ok value) : value.IsText := by
  refine Serializer.isText_of_outcome ?_ rendered
  rw [emptyPlaceholder_eq]
  exact Value.isText_text "(empty)"

theorem text_of_rendered {language : Page.Language} (chosen : request.format = .text format.key)
    (bare : request.page = none)
    (rendered : ((serializerFor request format).serialize (some (.tree tree none))).outcome =
      .ok (.text text)) : request.text (request.board language tree) = .ok text := by
  obtain ⟨log, -, shown⟩ := text_eq tree chosen
  rw [shown, rendered]
  simp only [Request.shownText, bare]
  rfl

theorem text_of_failure {language : Page.Language} (chosen : request.format = .text format.key)
    {failure : Failure}
    (failed : ((serializerFor request format).serialize (some (.tree tree none))).outcome =
      .error failure) :
    request.text (request.board language tree) = .error (.notRendered format.title) := by
  obtain ⟨log, -, shown⟩ := text_eq tree chosen
  rw [shown, failed]

/-- A text is printed, with one line end more where it does not end with one. -/
structure Prints (outcome : Outcome) (text : String) : Prop where
  ending : outcome.ending = .returned 0
  ended : (∃ front, text = front ++ "\n") → outcome.output = text
  unended : (∀ front, text ≠ front ++ "\n") → outcome.output = text ++ "\n"

theorem withLineEnd_of_ended (front : String) : withLineEnd (front ++ "\n") = front ++ "\n" := by
  have last : (front ++ "\n").toList.getLast? = some '\n' := by
    rw [String.toList_append]
    exact List.getLast?_append_of_ne_nil _ (by simp)
  rw [withLineEnd, if_pos last]

theorem withLineEnd_of_open (unended : ∀ front, text ≠ front ++ "\n") :
    withLineEnd text = text ++ "\n" := by
  rw [withLineEnd, if_neg]
  intro last
  obtain ⟨front, spelled⟩ := List.getLast?_eq_some_iff.mp last
  refine unended (String.ofList front) (String.toList_injective ?_)
  rw [spelled, String.toList_append, String.toList_ofList]
  rfl

theorem showValue_of_text (file : String) (chosen : request.format = .text format.key)
    (built : Tree.ofValue host.rowLevels document = .ok tree)
    (shown : request.text (request.board host.language tree) = .ok text)
    (encodes : host.strict = true → showsHalves host request document text = false) :
    Prints (showValue host file request document) text := by
  have spelled : (host.strict && showsHalves host request document text) = false := by
    cases strict : host.strict with
    | false => rfl
    | true => rw [encodes strict]; rfl
  simp only [showValue, treeFor_eq chosen, built, shown, spelled]
  refine ⟨rfl, ?_, withLineEnd_of_open⟩
  rintro ⟨front, rfl⟩
  exact withLineEnd_of_ended front

theorem showValue_of_halves (file : String) (chosen : request.format = .text format.key)
    (built : Tree.ofValue host.rowLevels document = .ok tree)
    (shown : request.text (request.board host.language tree) = .ok text)
    (strict : host.strict = true) (halves : showsHalves host request document text = true) :
    (showValue host file request document).ending = .failed .unencodable ∧
      (showValue host file request document).output = "" := by
  simp only [showValue, treeFor_eq chosen, built, shown, strict, halves, Bool.and_self, if_true,
    and_self]

def unrendered (file : String) (format : Format) : String :=
  "Error: Cannot render " ++ file ++ ": " ++ (format.title ++ " could not render the source")

theorem showValue_of_failure (file : String) (chosen : request.format = .text format.key)
    (built : Tree.ofValue host.rowLevels document = .ok tree) {failure : Failure}
    (failed : ((serializerFor request format).serialize (some (.tree tree none))).outcome =
      .error failure) :
    (showValue host file request document).ending = .exitedWith (unrendered file format) ∧
      (showValue host file request document).output = "" := by
  have kind : (Failure.notRendered format.title).kind = .inconsistent := rfl
  have message : (Failure.notRendered format.title).message =
      format.title ++ " could not render the source" := rfl
  rw [showValue, treeFor_eq chosen, built]
  dsimp only
  rw [text_of_failure chosen failed]
  dsimp only
  rw [if_pos kind, message]
  exact ⟨rfl, rfl⟩

def flagged (format : Format) : List String :=
  ["--format", format.key, "render", "t.json", "--max-rows", "1", "--no-headers", "--row-headers",
    "--separator", ","]

def flaggedRequest (format : Format) : Request where
  format := .text format.key
  file := some "t.json"
  maxRows := some (.int 1)
  noHeaders := true
  rowHeaders := true
  separator := some (.text ",")

theorem plan_flagged (format : Format) :
    plan (flagged format) = .needs "t.json" (flaggedRequest format) := by
  have counts : Integer.read? "1".toList = some 1 := by decide
  exact plan_of_sets (.file rfl (by decide) (.maxRows counts (by decide)
    (.noHeaders (.rowHeaders (.separator (by decide) .nothing))))) rfl (by decide)

def holding (bytes : ByteArray) : Host where
  files := fun _ => some bytes
  language := .ofDefault
  jsonLevels := 1000
  rowLevels := 500
  strict := true

/-- What a file is turned down for by a failure that nothing takes care of. -/
inductive Refused (host : Host) (request : Request) (bytes : ByteArray) : Failure → Prop
  | undecodable (noText : String.fromUTF8? bytes = none) : Refused host request bytes .undecodable
  | tooManyDigits {content : String} {count position : Nat}
      (decoded : String.fromUTF8? bytes = some content)
      (tooLong : Json.read host.jsonLevels (normalizeLines content.toList) =
        .error ⟨.tooManyDigits count, position⟩) :
      Refused host request bytes (.tooManyDigits count)
  | tooDeep {content : String} {position : Nat}
      (decoded : String.fromUTF8? bytes = some content)
      (nested : Json.read host.jsonLevels (normalizeLines content.toList) =
        .error ⟨.tooDeep, position⟩) : Refused host request bytes .exhausted
  | noTree {document : Value} {failure : Failure} (holds : Holds host bytes document)
      (unbuilt : Tree.ofValue host.rowLevels document = .error failure) :
      Refused host request bytes failure
  | unencodable {document : Value} {tree : Tree} {text : String} (holds : Holds host bytes document)
      (built : Tree.ofValue host.rowLevels document = .ok tree)
      (shown : request.text (request.board host.language tree) = .ok text)
      (strict : host.strict = true) (halves : showsHalves host request document text = true) :
      Refused host request bytes .unencodable

theorem Holds.unique {document' : Value} (holds : Holds host bytes document)
    (holds' : Holds host bytes document') : document = document' := by
  obtain ⟨content, decoded, read⟩ := holds.read
  obtain ⟨content', decoded', read'⟩ := holds'.read
  obtain rfl := Option.some.inj (decoded.symm.trans decoded')
  exact Except.ok.inj (read.symm.trans read')

theorem Refused.of_holds {failure : Failure} (refused : Refused host request bytes failure)
    (holds : Holds host bytes document) :
    Tree.ofValue host.rowLevels document = .error failure ∨
      ∃ tree text, Tree.ofValue host.rowLevels document = .ok tree ∧
        request.text (request.board host.language tree) = .ok text ∧
        host.strict = true ∧ showsHalves host request document text = true := by
  obtain ⟨content, decoded, read⟩ := holds.read
  cases refused with
  | undecodable noText => cases noText.symm.trans decoded
  | tooManyDigits decoded' tooLong =>
    obtain rfl := Option.some.inj (decoded.symm.trans decoded')
    cases read.symm.trans tooLong
  | tooDeep decoded' nested =>
    obtain rfl := Option.some.inj (decoded.symm.trans decoded')
    cases read.symm.trans nested
  | noTree holds' unbuilt => exact .inl (holds.unique holds' ▸ unbuilt)
  | unencodable holds' built shown strict halves =>
    obtain rfl := holds.unique holds'
    exact .inr ⟨_, _, built, shown, strict, halves⟩

theorem not_refused_of_complaint {content : String} {error : Json.Error}
    (decoded : String.fromUTF8? bytes = some content)
    (read : Json.read host.jsonLevels (normalizeLines content.toList) = .error error)
    (short : ∀ count, error.complaint ≠ .tooManyDigits count) (flat : error.complaint ≠ .tooDeep)
    (failure : Failure) : ¬ Refused host request bytes failure := by
  have noDocument {document : Value} (holds : Holds host bytes document) : False := by
    obtain ⟨content', decoded', read'⟩ := holds.read
    obtain rfl := Option.some.inj (decoded.symm.trans decoded')
    cases read.symm.trans read'
  intro refused
  cases refused with
  | undecodable noText => cases noText.symm.trans decoded
  | tooManyDigits decoded' tooLong =>
    obtain rfl := Option.some.inj (decoded.symm.trans decoded')
    cases read.symm.trans tooLong
    exact short _ rfl
  | tooDeep decoded' nested =>
    obtain rfl := Option.some.inj (decoded.symm.trans decoded')
    cases read.symm.trans nested
    exact flat rfl
  | noTree holds => exact noDocument holds
  | unencodable holds => exact noDocument holds

theorem showFile_of_complaint {content : String} {error : Json.Error}
    (decoded : String.fromUTF8? bytes = some content)
    (read : Json.read host.jsonLevels (normalizeLines content.toList) = .error error)
    (short : ∀ count, error.complaint ≠ .tooManyDigits count)
    (flat : error.complaint ≠ .tooDeep) :
    showFile host file request (some bytes) = { ending := .exitedWith ("Error: Invalid JSON in " ++
      file ++ ": " ++ error.message (normalizeLines content.toList)) } := by
  obtain ⟨complaint, position⟩ := error
  cases complaint with
  | tooManyDigits count => exact absurd rfl (short count)
  | tooDeep => exact absurd rfl flat
  | _ => simp only [showFile, decoded, read]

def Explains (message : String) : Prop := ∃ reason, message = "Error: " ++ reason

theorem Explains.append {message : String} (explains : Explains message) (more : String) :
    Explains (message ++ more) := by
  obtain ⟨reason, rfl⟩ := explains
  exact ⟨reason ++ more, String.append_assoc ..⟩

theorem text_comes (fills : host.language.FillsDefault)
    (chosen : request.format = .text format.key)
    (rendered : ((serializerFor request format).serialize (some (.tree tree none))).outcome =
      .ok value) : Comes (request.text (request.board host.language tree)) := by
  obtain ⟨text, rfl⟩ := isText_of_rendered rendered
  cases asked : request.page with
  | none => exact ⟨text, text_of_rendered chosen asked rendered⟩
  | some title =>
    obtain ⟨log, board, shown⟩ := text_eq tree chosen
    rw [shown, board, rendered]
    exact shownText_page_comes fills asked rfl log (.text text)

theorem shown_or_explained (file : String) (fills : host.language.FillsDefault)
    (chosen : request.format = .text format.key) (holds : Holds host bytes document)
    (built : Tree.ofValue host.rowLevels document = .ok tree) :
    (Refused host request bytes .unencodable ∧
        (showValue host file request document).ending = .failed .unencodable ∧
        (showValue host file request document).output = "") ∨
      (∀ failure, ¬ Refused host request bytes failure) ∧
        ((∃ text, request.text (request.board host.language tree) = .ok text ∧
            Prints (showValue host file request document) text) ∨
          ∃ message, Explains message ∧
            (showValue host file request document).ending = .exitedWith message ∧
            (showValue host file request document).output = "") := by
  cases rendered : ((serializerFor request format).serialize (some (.tree tree none))).outcome with
  | error failure =>
    have none : request.text (request.board host.language tree) = _ :=
      text_of_failure chosen rendered
    refine .inr ⟨fun _ refused => ?_, .inr ⟨_, ?_, showValue_of_failure file chosen built rendered⟩⟩
    · obtain unbuilt | ⟨tree', text, built', shown, -⟩ := refused.of_holds holds
      · cases built.symm.trans unbuilt
      · obtain rfl := Except.ok.inj (built.symm.trans built')
        cases none.symm.trans shown
    · exact .append (.append (.append ⟨"Cannot render ", rfl⟩ file) ": ") _
  | ok value =>
    obtain ⟨text, shown⟩ := text_comes fills chosen rendered
    by_cases halves : host.strict = true ∧ showsHalves host request document text = true
    · exact .inl ⟨.unencodable holds built shown halves.1 halves.2,
        showValue_of_halves file chosen built shown halves.1 halves.2⟩
    · refine .inr ⟨fun _ refused => ?_, .inl ⟨text, shown, ?_⟩⟩
      · obtain unbuilt | ⟨tree', text', built', shown', halved⟩ := refused.of_holds holds
        · cases built.symm.trans unbuilt
        · obtain rfl := Except.ok.inj (built.symm.trans built')
          obtain rfl := Except.ok.inj (shown.symm.trans shown')
          exact halves halved
      · exact showValue_of_text file chosen built shown fun strict =>
          Bool.eq_false_iff.mpr fun shows => halves ⟨strict, shows⟩

/-- However a file is shown that is there, nothing takes care of a failure exactly if its bytes are
no text, a whole number in it is too long, its lists and objects stand too deep in each other, its
document is not one that a tree is read from, or a strict output turns down the halves of surrogate
pairs in what is shown; then nothing is printed. Every other file is shown and the command returns,
or the command exits with a message. -/
theorem ending_of_file (planned : plan words = .needs file request)
    (chosen : request.format = .text format.key) (stored : host.files file = some bytes)
    (fills : host.language.FillsDefault) :
    ((∃ failure, Refused host request bytes failure ∧
          (run words host).ending = .failed failure ∧ (run words host).output = "") ∨
      (∀ failure, ¬ Refused host request bytes failure) ∧
        ((∃ document tree text, Holds host bytes document ∧
            Tree.ofValue host.rowLevels document = .ok tree ∧
            request.text (request.board host.language tree) = .ok text ∧
            Prints (run words host) text) ∨
          ∃ message, Explains message ∧ (run words host).ending = .exitedWith message ∧
            (run words host).output = "")) ∧
    ∀ document, (∃ tree, Tree.ofValue host.rowLevels document = .ok tree) ↔
      document.IsDocument host.rowLevels := by
  refine ⟨?_, Tree.ofValue_comes_iff host.rowLevels⟩
  rw [run_of_needs planned stored]
  -- the cases are the stages that a file goes through: bytes, text, document, tree
  cases decoded : String.fromUTF8? bytes with
  | none =>
    refine .inl ⟨_, .undecodable decoded, ?_⟩
    simp only [showFile, decoded, and_self]
  | some content =>
    cases read : Json.read host.jsonLevels (normalizeLines content.toList) with
    | error error =>
      by_cases tooLong : ∃ count, error.complaint = .tooManyDigits count
      · obtain ⟨count, long⟩ := tooLong
        obtain ⟨_, position⟩ := error
        obtain rfl : _ = Json.Complaint.tooManyDigits count := long
        refine .inl ⟨_, .tooManyDigits decoded read, ?_⟩
        simp only [showFile, decoded, read, and_self]
      by_cases nested : error.complaint = .tooDeep
      · obtain ⟨_, position⟩ := error
        obtain rfl : _ = Json.Complaint.tooDeep := nested
        refine .inl ⟨_, .tooDeep decoded read, ?_⟩
        simp only [showFile, decoded, read, and_self]
      have short := not_exists.mp tooLong
      refine .inr ⟨not_refused_of_complaint decoded read short nested, ?_⟩
      rw [showFile_of_complaint decoded read short nested]
      exact .inr ⟨_, .append (.append (.append ⟨"Invalid JSON in ", rfl⟩ file) ": ") _, rfl, rfl⟩
    | ok document =>
      have holds : Holds host bytes document := ⟨content, decoded, read⟩
      rw [showFile_of_holds holds]
      cases built : Tree.ofValue host.rowLevels document with
      | error failure =>
        refine .inl ⟨failure, .noTree holds built, ?_⟩
        rw [showValue, treeFor_eq chosen, built]
        exact ⟨rfl, rfl⟩
      | ok tree =>
        obtain refused | ⟨unrefused, ⟨text, shown⟩ | explained⟩ :=
          shown_or_explained file fills chosen holds built
        · exact .inl ⟨_, refused⟩
        · exact .inr ⟨unrefused, .inl ⟨document, tree, text, holds, built, shown⟩⟩
        · exact .inr ⟨unrefused, .inr explained⟩

theorem fails_on_list : (run (flagged .csv) (holding "[]".toUTF8)).ending = .failed .noSuchField ∧
    (run (flagged .csv) (holding "[]".toUTF8)).output = "" := by
  have read : Json.read 1000 (normalizeLines "[]".toList) = .ok (.list []) := by cbv
  have holds : Holds (holding "[]".toUTF8) "[]".toUTF8 (.list []) := ⟨"[]", rfl, read⟩
  have unbuilt : Tree.ofValue 500 (.list []) = .error .noSuchField := rfl
  have stored : (holding "[]".toUTF8).files "t.json" = some "[]".toUTF8 := rfl
  obtain ⟨⟨failure, refused, failed⟩ | ⟨unrefused, -⟩, -⟩ :=
    ending_of_file (plan_flagged .csv) rfl stored Page.Language.ofDefault_fillsDefault
  · obtain unbuilt' | ⟨tree, text, built, -⟩ := refused.of_holds holds
    · cases unbuilt.symm.trans unbuilt'
      exact failed
    · cases unbuilt.symm.trans built
  · exact absurd (.noTree holds unbuilt) (unrefused _)

theorem not_handled_of_undecodable : ¬ ∀ (words : List String) (host : Host) (file : String)
    (request : Request) (format : Format) (bytes : ByteArray),
      plan words = .needs file request → request.format = .text format.key →
        host.files file = some bytes → host.language.FillsDefault →
          (run words host).ending = .returned 0 ∨
            ∃ message, Explains message ∧ (run words host).ending = .exitedWith message := by
  intro handled
  let bytes : ByteArray := ⟨#[0xff]⟩
  have noText : String.fromUTF8? bytes = none := by decide +kernel
  have stored : (holding bytes).files "t.json" = some bytes := rfl
  have shown : run (flagged .csv) (holding bytes) = { ending := .failed .undecodable } := by
    rw [run_of_needs (plan_flagged .csv) stored]
    simp only [showFile, noText]
  obtain returned | ⟨_, -, exited⟩ := handled (flagged .csv) (holding bytes) "t.json"
    (flaggedRequest .csv) .csv bytes (plan_flagged .csv) rfl stored
    Page.Language.ofDefault_fillsDefault
  · rw [shown] at returned
    cases returned
  · rw [shown] at exited
    cases exited

end TreeTable.Command
