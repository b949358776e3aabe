import LiveMarkup.Proofs.MarkupWords

/-! # Escaping is an embedding

Escaping keeps texts apart, goes part by part through a text, and is taken back by decoding in one pass.
Every text without reserved characters in which each ampersand starts an entity is the escaped form of
the one text that it is decoded to.
-/
namespace LiveMarkup

theorem exists_escapeChar_of_mem_entities {e : List Char} (h : e ∈ entities) :
    ∃ c, e = escapeChar c := by
  simp only [entities, List.mem_cons, List.not_mem_nil, or_false] at h
  rcases h with rfl | rfl | rfl | rfl | rfl
  · exact ⟨'&', rfl⟩
  · exact ⟨'<', rfl⟩
  · exact ⟨'>', rfl⟩
  · exact ⟨'"', rfl⟩
  · exact ⟨'\'', rfl⟩

theorem escapeChar_ne_nil (c : Char) : escapeChar c ≠ [] := by
  rw [escapeChar]
  cases he : entityOf c with
  | none => exact List.cons_ne_nil c []
  | some e =>
    obtain ⟨name, rfl, -⟩ := exists_of_mem_entities (mem_entities_of_entityOf he)
    exact List.cons_ne_nil '&' name

theorem entityOf_of_unreserved {c : Char} (h : ¬IsReserved c) (hamp : c ≠ '&') : entityOf c = none := by
  simp only [IsReserved, not_or] at h
  simp [entityOf, h, hamp]

namespace Escaped

theorem of_append {front text : List Char} (h : Escaped (front ++ text)) : Escaped text where
  unreserved c hc := h.unreserved c (List.mem_append_right front hc)
  ampersand before behind heq := by
    subst heq
    exact h.ampersand (front ++ before) behind (List.append_assoc ..).symm

/-- An escaped text starts with the escaped form of a character. -/
theorem exists_escapeChar {c : Char} {text : List Char} (h : Escaped (c :: text)) :
    ∃ d rest, c :: text = escapeChar d ++ rest := by
  by_cases hamp : c = '&'
  · subst hamp
    obtain ⟨e, he, rest, htext⟩ := h.ampersand [] text rfl
    obtain ⟨d, rfl⟩ := exists_escapeChar_of_mem_entities he
    exact ⟨d, rest, htext.symm⟩
  · have hc := entityOf_of_unreserved (h.unreserved c List.mem_cons_self) hamp
    exact ⟨c, text, by rw [escapeChar, hc]; rfl⟩

theorem escape_unescape {text : List Char} (h : Escaped text) : escape (unescape text) = text := by
  -- one escaped character is taken off at a time, so the text behind it is shorter
  induction hn : text.length using Nat.strong_induction_on generalizing text with
  | _ n ih =>
    cases text with
    | nil => rfl
    | cons c text =>
      obtain ⟨d, rest, htext⟩ := h.exists_escapeChar
      rw [htext] at h hn ⊢
      have hshort : rest.length < n := by
        have hpos : 0 < (escapeChar d).length :=
          List.length_pos_iff.2 (escapeChar_ne_nil d)
        rw [← hn, List.length_append]
        omega
      rw [unescape_escapeChar_append, escape_cons, ih _ hshort h.of_append rfl]

end Escaped

/-- The escaped texts are those that decoding and escaping again leaves as they are. -/
theorem escaped_iff (text : List Char) : Escaped text ↔ escape (unescape text) = text := by
  refine ⟨Escaped.escape_unescape, fun h => ?_⟩
  rw [← h]
  exact escaped_escape (unescape text)

theorem escapeText_injective : Function.Injective escapeText := by
  intro s t h
  have hlists := congrArg String.toList h
  rw [toList_escapeText, toList_escapeText] at hlists
  exact String.toList_inj.1 (escape_injective hlists)

/-- Escaping takes a text in two parts to its escaped parts. The pass that cuts stretches out of the bytes
of a text has a result for every text and every buffer, and puts just the escaped text behind what the
buffer held. An escaped text has no reserved character and no ampersand outside the entities, and is
decoded in one pass to the text it was made from, whatever that spells. No two texts are escaped alike,
and the texts of this form are just those that decoding and escaping again leaves as they are. -/
theorem escapeText_embedding (s t buffer : String) :
    escapeText (s ++ t) = escapeText s ++ escapeText t ∧
      escapeInto? buffer s = some (buffer ++ escapeText s) ∧
      escapeInto buffer s = buffer ++ escapeText s ∧ escapeInto "" s = escapeText s ∧
      Escaped (escapeText s).toList ∧
      unescape (escapeText s).toList = s.toList ∧
      Function.Injective escapeText ∧
      ∀ markup, Escaped markup ↔ escape (unescape markup) = markup := by
  refine ⟨escapeText_append s t, escapeInto?_eq buffer s, escapeInto_eq buffer s, ?_, ?_, ?_,
    escapeText_injective, escaped_iff⟩
  · rw [escapeInto_eq, String.empty_append]
  · rw [toList_escapeText]
    exact escaped_escape s.toList
  · rw [toList_escapeText, unescape_escape]

/-- Reserved characters side by side, behind one of two bytes, and a text that is an entity. -/
example : escapeInto "<b>" "é<\"&lt;" = "<b>é&lt;&quot;&amp;lt;" ∧
    unescape "é&lt;&quot;&amp;lt;".toList = "é<\"&lt;".toList := by
  decide

end LiveMarkup
