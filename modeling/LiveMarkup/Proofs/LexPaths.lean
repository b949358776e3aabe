import LiveMarkup.Proofs.Results
import LiveMarkup.Engine.Process

/-! # Two ways to the tokens of a program

The engine and the lexer of the editor start the same program on the same source. The engine refuses
output that is not UTF-8, while the lexer of the editor replaces what is malformed in it. So whatever the
engine accepts, the editor's lexer accepts with the same tokens, and the two part only over malformed
bytes that leave a stream of tokens once they are replaced.
-/
namespace LiveMarkup

theorem map_getD_of_mapM {α : Type} {found : List (Option α)} {all : List α} (d : α)
    (h : found.mapM id = some all) : found.map (·.getD d) = all := by
  induction found generalizing all with
  | nil => exact Option.some.inj h
  | cons c found ih =>
    rw [List.mapM_cons] at h
    obtain ⟨a, ha, h⟩ := Option.bind_eq_some_iff.1 h
    obtain ⟨later, hlater, h⟩ := Option.bind_eq_some_iff.1 h
    obtain rfl := Option.some.inj h
    obtain rfl : c = some a := ha
    exact congrArg (a :: ·) (ih hlater)

/-- Bytes that are well-formed are decoded leniently as they are strictly. -/
theorem decodeLossy_of_decodeUtf8 {bytes : List UInt8} {text : List Char}
    (h : decodeUtf8 bytes = some text) : decodeLossy bytes = text :=
  map_getD_of_mapM _ h

namespace ProcessOutput
variable {o : ProcessOutput}

/-- What a program that did not succeed has told reaches both callers. -/
theorem tokens_of_failed (h : o.status.success = false) :
    o.tokens = .error (.diagnostic o.diagnostic) ∧ o.editorTokens = .error (.rejected o.diagnostic) := by
  constructor
  · simp only [tokens, text, h, Bool.false_eq_true, if_false]
    rfl
  · simp only [editorTokens, h, Bool.false_eq_true, if_false]

theorem tokens_of_decoded (h : o.status.success) {text : List Char}
    (htext : decodeUtf8 o.output = some text) :
    o.tokens = (Token.decode (String.ofList text)).mapError (fun fault => .tokens (.malformed fault)) ∧
      o.editorTokens = (Token.decode (String.ofList text)).mapError .malformed := by
  constructor
  · simp only [tokens, ProcessOutput.text, h, htext, if_true]
    rfl
  · simp only [editorTokens, h, decodeLossy_of_decodeUtf8 htext, if_true]

theorem tokens_of_malformed (h : o.status.success) (htext : decodeUtf8 o.output = none) :
    o.tokens = .error .notUtf8 := by
  simp only [tokens, text, h, htext, if_true]
  rfl

theorem toOption_tokens_iff :
    o.tokens.toOption = o.editorTokens.toOption ↔
      ¬(o.status.success ∧ decodeUtf8 o.output = none ∧
        ∃ ts, Token.decode (String.ofList (decodeLossy o.output)) = .ok ts) := by
  by_cases h : o.status.success
  · cases htext : decodeUtf8 o.output with
    | some text =>
      obtain ⟨htokens, heditor⟩ := tokens_of_decoded h htext
      simp [htokens, heditor, toOption_mapError]
    | none =>
      have heditor : o.editorTokens =
          (Token.decode (String.ofList (decodeLossy o.output))).mapError .malformed := if_pos h
      rw [tokens_of_malformed h htext, heditor, toOption_mapError]
      cases Token.decode (String.ofList (decodeLossy o.output)) with
      | ok ts => simp [h, Except.toOption]
      | error fault => simp [Except.toOption]
  · obtain ⟨htokens, heditor⟩ := tokens_of_failed (Bool.eq_false_iff.2 h)
    simp [htokens, heditor, h, Except.toOption]

/-- The editor's lexer accepts whatever the engine accepts. -/
theorem editorTokens_of_tokens {ts : List Token} (h : o.tokens = .ok ts) : o.editorTokens = .ok ts := by
  by_cases hs : o.status.success
  · cases htext : decodeUtf8 o.output with
    | some text =>
      obtain ⟨htokens, heditor⟩ := tokens_of_decoded hs htext
      rw [htokens] at h
      rw [heditor]
      cases hread : Token.decode (String.ofList text) with
      | ok found =>
        rw [hread] at h
        exact congrArg Except.ok (Except.ok.inj h)
      | error fault =>
        rw [hread] at h
        exact nomatch h
    | none =>
      rw [tokens_of_malformed hs htext] at h
      exact nomatch h
  · rw [(tokens_of_failed (Bool.eq_false_iff.2 hs)).1] at h
    exact nomatch h

end ProcessOutput

namespace ProgramEngine

/-- On what a program leaves behind for `lex`, the engine and the lexer of the editor both accept the
same tokens or both fail, unless the output of a program that succeeded is malformed and is a stream of
tokens once that is replaced; then only the lexer of the editor accepts. A program that did not succeed
fails both with the same diagnostic, and what the engine accepts the editor's lexer always accepts. -/
theorem lexers_agree_iff {e : ProgramEngine} {source : String} {o : ProcessOutput}
    (hrun : e.launch e.program (e.arguments ++ ["lex"]) (encodeUtf8 source.toList) = .ok o) :
    ((e.engine.lex source).toOption = (e.editorLexer source).toOption ↔
      ¬(o.status.success ∧ decodeUtf8 o.output = none ∧
        ∃ ts, Token.decode (String.ofList (decodeLossy o.output)) = .ok ts)) ∧
    (o.status.success = false →
      e.engine.lex source = .error (.diagnostic o.diagnostic) ∧
        e.editorLexer source = .error (.rejected o.diagnostic)) ∧
    (o.status.success → decodeUtf8 o.output = none → e.engine.lex source = .error .notUtf8) ∧
    ∀ ts, e.engine.lex source = .ok ts → e.editorLexer source = .ok ts := by
  have hengine : e.engine.lex source = o.tokens := by
    simp only [engine, run, hrun]
    rfl
  have heditor : e.editorLexer source = o.editorTokens := by
    simp only [editorLexer, hrun]
  rw [hengine, heditor]
  exact ⟨ProcessOutput.toOption_tokens_iff, ProcessOutput.tokens_of_failed,
    ProcessOutput.tokens_of_malformed, fun _ => ProcessOutput.editorTokens_of_tokens⟩

/-- A malformed byte outside a string is no JSON once it is replaced, so both fail. -/
theorem lexers_agree_iff_outside_string :
    let o : ProcessOutput := ⟨.exited 0, [0x5b, 0xff, 0x5d], []⟩
    let e : ProgramEngine := { program := "engine", launch := fun _ _ _ => .ok o }
    e.engine.lex "a" = .error .notUtf8 ∧ (e.editorLexer "a").toOption = none := by
  intro o e
  have hread : Token.decode (String.ofList (decodeLossy o.output)) =
      .error ⟨.expectedValue, ⟨1, 2⟩⟩ := by
    simp only [o]
    cbv
  have hnone : decodeUtf8 o.output = none := by decide +kernel
  have hrun : e.launch e.program (e.arguments ++ ["lex"]) (encodeUtf8 "a".toList) = .ok o := rfl
  obtain ⟨hiff, -, hmalformed, -⟩ := lexers_agree_iff hrun
  have hengine := hmalformed (by decide) hnone
  refine ⟨hengine, ?_⟩
  have hagree := hiff.2 <| by
    rintro ⟨-, -, ts, hts⟩
    cases hread.symm.trans hts
  rw [← hagree, hengine]
  rfl

/-- A malformed byte inside a string: the engine refuses it, the editor's lexer shows it replaced. -/
theorem lexers_differ_on_malformed :
    let output := encodeUtf8 "[\x7b\"value\":\"".toList ++ 0xff :: encodeUtf8 "\"\x7d]".toList
    let e : ProgramEngine := { program := "engine", launch := fun _ _ _ => .ok ⟨.exited 0, output, []⟩ }
    e.engine.lex "a" = .error .notUtf8 ∧ e.editorLexer "a" = .ok [⟨.other "", "\ufffd", 0, 0⟩] := by
  intro output e
  have hread : Token.decode (String.ofList (decodeLossy output)) =
      .ok [⟨.other "", "\ufffd", 0, 0⟩] := by
    simp only [output]
    cbv
  have hbytes : decodeUtf8 output = none := by decide +kernel
  constructor
  · exact ProcessOutput.tokens_of_malformed (o := ⟨.exited 0, output, []⟩) (by decide) hbytes
  · show (ProcessOutput.mk (.exited 0) output []).editorTokens = _
    rw [ProcessOutput.editorTokens, if_pos (by decide), hread]
    rfl

end ProgramEngine
end LiveMarkup
