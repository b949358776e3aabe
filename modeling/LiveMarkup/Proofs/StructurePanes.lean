import LiveMarkup.Proofs.IndentedText
import LiveMarkup.Proofs.ScopeNames

/-! # Structure panes

The panes of an update show its syntax tree and its tokens as indented text. What a reader sees of these
panes is read back as the tree and the tokens of the report, whatever their strings hold. A failed
update shows its message in the tree, no tokens, and its diagnostic in the two other panes.
-/
namespace LiveMarkup

/-! ### Where the parts of a document stand -/

/-- A document from its start to its body. -/
def documentHead (style : String) : String :=
  "<!DOCTYPE html>\n<html>\n<head>\n<meta charset=\"utf-8\">\n<style>\n" ++ style ++
    "\n</style>\n</head>\n"

theorem document_eq (style body : String) :
    document style body =
      documentHead style ++ ("<body>" ++ (("\n" ++ body ++ "\n") ++ ("</body>" ++ "\n</html>\n"))) := by
  have hgroup : ∀ a s b t e m e' : String, b = m ++ ("<body>" ++ "\n") → e = "\n" ++ e' →
      a ++ s ++ b ++ t ++ e = (a ++ s ++ m) ++ ("<body>" ++ (("\n" ++ t ++ "\n") ++ e')) := by
    rintro a s b t e m e' rfl rfl
    simp only [String.append_assoc]
  exact hgroup _ _ _ _ _ _ _ (by decide +kernel) (by decide +kernel)

theorem paneDocument_eq (markup : String) :
    paneDocument markup =
      (documentHead paneStyle ++ "<body>\n<pre class=\"output-content\">") ++
        ("<code>" ++ (markup ++ ("</code>" ++ "</pre>\n</body>\n</html>\n"))) := by
  have hgroup : ∀ a s b o t c e m o' e' : String, b ++ o = m ++ (o' ++ "<code>") →
      c ++ e = "</code>" ++ e' →
      a ++ s ++ b ++ (o ++ t ++ c) ++ e = ((a ++ s ++ m) ++ o') ++ ("<code>" ++ (t ++ ("</code>" ++ e'))) := by
    intro a s b o t c e m o' e' ho hc
    calc a ++ s ++ b ++ (o ++ t ++ c) ++ e
        = a ++ s ++ (b ++ o) ++ t ++ (c ++ e) := by simp only [String.append_assoc]
      _ = a ++ s ++ (m ++ (o' ++ "<code>")) ++ t ++ ("</code>" ++ e') := by rw [ho, hc]
      _ = _ := by simp only [String.append_assoc]
  exact hgroup _ _ _ _ _ _ _ _ _ _ (by decide +kernel) (by decide +kernel)

theorem clears_styleRule {mark : List Char} {selector declarations : String}
    (hopen : Clears mark " \x7b ") (hclose : Clears mark " \x7d") (hs : Clears mark selector)
    (hd : Clears mark declarations) : Clears mark (styleRule selector declarations) :=
  ((hs.append hopen).append hd).append hclose

theorem clears_errorHead : Clears "<body>".toList (documentHead errorStyle) := by
  unfold documentHead errorStyle
  repeat' first
    | with_reducible apply Clears.append
    | with_reducible apply clears_styleRule
    | exact clears_ofList (by decide +kernel)

theorem clears_paneHead : Clears "<code>".toList
    (documentHead paneStyle ++ "<body>\n<pre class=\"output-content\">") := by
  unfold documentHead paneStyle codeRules
  repeat' first
    | with_reducible apply Clears.append
    | with_reducible apply clears_styleRule
    | exact clears_ofList (by decide +kernel)

/-! ### What the panes show -/

/-- What a reader sees between two tags of a document. -/
def shownBetween? (opening closing document : String) : Option String :=
  (between? opening closing document).map fun markup =>
    String.ofList (decodeReferences (dropTags false markup.toList))

theorem between?_code {markup : String} {text : List Char} (h : Shows markup.toList text) :
    between? "<code>" "</code>" (paneDocument markup) = some markup := by
  have hname : "/code".toList ∈ partEnds := List.mem_cons_self
  rw [paneDocument_eq]
  exact between?_of_shows (by decide +kernel) clears_paneHead (by decide +kernel) hname h

theorem shownBetween?_code {markup text : String} (h : Shows markup.toList text.toList) :
    shownBetween? "<code>" "</code>" (paneDocument markup) = some text := by
  rw [shownBetween?, between?_code h, Option.map_some, h.decode, String.ofList_toList]

/-- A diagnostic shows its message without the control sequences. -/
theorem shows_diagnosticBlock (message : String) :
    Shows (diagnosticBlock message).toList (stripAnsi message.toList) := by
  have henclose : ∀ {opening closing : String} {o c content text : List Char},
      opening.toList = '<' :: (o ++ ['>']) → closing.toList = '<' :: (c ++ ['>']) →
      IsTag o → IsTag c → Shows content text →
      Shows (opening ++ String.ofList content ++ closing).toList text := by
    intro opening closing o c content text ho hc htago htagc h
    rw [String.toList_append, String.toList_append, String.toList_ofList, ho, hc]
    have hall := Shows.tag htago (h.append (.tag htagc .nil))
    simpa using hall
  have hopen : "<div class=\"error-container\">".toList =
      '<' :: ("div class=\"error-container\"".toList ++ ['>']) := by decide +kernel
  have hclose : "</div>".toList = '<' :: ("/div".toList ++ ['>']) := by decide +kernel
  exact henclose hopen hclose ⟨by decide +kernel, by decide +kernel, by decide +kernel⟩
    ⟨by decide +kernel, by decide +kernel, by decide +kernel⟩ (Shows.escape _)

theorem between?_body (message : String) :
    between? "<body>" "</body>" (document errorStyle (diagnosticBlock message)) =
      some ("\n" ++ diagnosticBlock message ++ "\n") := by
  have hname : "/body".toList ∈ partEnds := List.mem_cons_of_mem _ List.mem_cons_self
  have hlines : Shows ("\n" ++ diagnosticBlock message ++ "\n").toList
      (['\n'] ++ stripAnsi message.toList ++ ['\n']) := by
    have hwrites : Writes ['\n'] '\n' := Or.inl (by decide)
    have hline : Shows ['\n'] ['\n'] := .char hwrites .nil
    rw [String.toList_append, String.toList_append]
    exact (hline.append (shows_diagnosticBlock message)).append hline
  rw [document_eq]
  exact between?_of_shows (by decide +kernel) clears_errorHead (by decide +kernel) hname hlines

/-! ### The marks of the JSON grammar -/

theorem keepsText_json : KeepsText grammarMarker .json where
  lines _ _ h := (Highlight.Grammar.marks_spec h).1
  plain _ _ h line hline e he scope hscope :=
    (PaneLanguage.clean_named .json scope
      ((Highlight.Grammar.marks_spec h).2 line hline e he scope hscope)).plain

/-! ### Reading the panes back -/

namespace PanelDocuments
variable {marker : Marker}

theorem shown_ast (hmarker : KeepsText marker .json) (r : UpdateReport) :
    shownBetween? "<code>" "</code>" (ofReportBy marker r).ast = some r.ast.prettyText :=
  shownBetween?_code (shows_paneMarkupBy hmarker _)

theorem shown_tokens (hmarker : KeepsText marker .json) (r : UpdateReport) :
    shownBetween? "<code>" "</code>" (ofReportBy marker r).tokens =
      some (Token.streamToJson r.tokens).prettyText :=
  shownBetween?_code (shows_paneMarkupBy hmarker _)

/-- The panes of the tree and of the tokens are read back as what the report holds. After a failure
these are an object with the message as it is and no tokens, and the two other panes hold a block whose
text is the message without its control sequences. -/
theorem structurePanes_faithful (hmarker : KeepsText marker .json) :
    (∀ r : UpdateReport, r.ast.FitsText 127 →
      ∃ text, shownBetween? "<code>" "</code>" (ofReportBy marker r).ast = some text ∧
        Json.ofText? text = .ok r.ast) ∧
    (∀ r : UpdateReport, (∀ t ∈ r.tokens, t.FitsWire) →
      ∃ text, shownBetween? "<code>" "</code>" (ofReportBy marker r).tokens = some text ∧
        Token.decode text = .ok r.tokens) ∧
    ∀ source format message,
      let documents := ofReportBy marker ⟨source, format, .failure message⟩
      (∃ text, shownBetween? "<code>" "</code>" documents.ast = some text ∧
        Json.ofText? text = .ok (.obj [("error", .str message)])) ∧
      (∃ text, shownBetween? "<code>" "</code>" documents.tokens = some text ∧
        Token.decode text = .ok []) ∧
      ∃ content, decodeReferences content.toList = stripAnsi message.toList ∧ '<' ∉ content.toList ∧
        between? "<body>" "</body>" documents.preview =
          some ("\n" ++ ("<div class=\"error-container\">" ++ content ++ "</div>") ++ "\n") ∧
        between? "<code>" "</code>" documents.transpiled =
          some ("<div class=\"error-container\">" ++ content ++ "</div>") := by
  have hast : ∀ r : UpdateReport, r.ast.FitsText 127 →
      ∃ text, shownBetween? "<code>" "</code>" (ofReportBy marker r).ast = some text ∧
        Json.ofText? text = .ok r.ast :=
    fun r hr => ⟨_, shown_ast hmarker r, hr.ofText?_prettyText⟩
  have htokens : ∀ r : UpdateReport, (∀ t ∈ r.tokens, t.FitsWire) →
      ∃ text, shownBetween? "<code>" "</code>" (ofReportBy marker r).tokens = some text ∧
        Token.decode text = .ok r.tokens :=
    fun r hr => ⟨_, shown_tokens hmarker r, Token.decode_prettyText hr⟩
  refine ⟨hast, htokens, fun source format message => ⟨?_, ?_, ?_⟩⟩
  · refine hast ⟨source, format, .failure message⟩ (.obj (List.pairwise_singleton _ _) fun m hm => ?_)
    rw [List.mem_singleton.1 hm]
    exact .str message
  · exact htokens ⟨source, format, .failure message⟩ fun t ht => nomatch ht
  · refine ⟨String.ofList (escape (stripAnsi message.toList)), ?_, ?_, between?_body message,
      between?_code (shows_diagnosticBlock message)⟩
    · rw [String.toList_ofList, decodeReferences_escape]
    · rw [String.toList_ofList]
      exact lt_notMem_escape _

/-- A tree and a token whose strings hold markup, quotes and line feeds, with the marks of the grammar. -/
theorem structurePanes_faithful_markup :
    let ast : Json := .obj [("</code>\"", .arr [.num (.int (-2 ^ 63)), .str "&amp;\n'"]), ("k", .null)]
    let tokens : List Token := [⟨.other "<i>", "\\\"\x1b[1m", 2 ^ 64 - 1, 0⟩]
    let documents := ofReport ⟨"", .html, .success "" ast tokens⟩
    KeepsText grammarMarker .json ∧ ast.FitsText 127 ∧ (∀ t ∈ tokens, t.FitsWire) ∧
      (∃ text, shownBetween? "<code>" "</code>" documents.ast = some text ∧
        Json.ofText? text = .ok ast) ∧
      ∃ text, shownBetween? "<code>" "</code>" documents.tokens = some text ∧
        Token.decode text = .ok tokens := by
  intro ast tokens documents
  have hast : ast.FitsText 127 := by
    refine .obj (List.pairwise_pair.2 (by decide +kernel)) ?_
    simp only [List.forall_mem_cons, List.not_mem_nil, false_imp_iff, implies_true, and_true]
    refine ⟨.arr ?_, .null⟩
    simp only [List.forall_mem_cons, List.not_mem_nil, false_imp_iff, implies_true, and_true]
    exact ⟨.int (by decide) (by decide), .str _⟩
  have htokens : ∀ t ∈ tokens, t.FitsWire := by
    intro t ht
    rw [List.mem_singleton.1 ht]
    exact ⟨by decide, by decide, by decide⟩
  obtain ⟨hread, hdecode, -⟩ := structurePanes_faithful keepsText_json
  exact ⟨keepsText_json, hast, htokens, hread ⟨"", .html, .success "" ast tokens⟩ hast,
    hdecode ⟨"", .html, .success "" ast tokens⟩ htokens⟩

end PanelDocuments
end LiveMarkup
