import FenceLint.Config
import FenceLint.Proofs.Json.Comments
import FenceLint.Proofs.Json.Reading

/-!
# Configurations with comments and extra commas

A configuration may be written with comments in all gaps and with an extra comma after the last
element of a list or object.  It means what its lexemes mean without them
(`Config.parse_of_decorates`).

The texts in a configuration are those that `Json.read` gives.  So escaped halves of surrogate pairs
count as the replacement character here, with the decorations and without them.
-/

namespace FenceLint

open Json

/-- What is read of a text is what its characters are read as. -/
theorem Json.read_of_document {text : String} {v : Value}
    (h : Reader.document text.toList = .ok v) : Json.read text = .ok v := by
  rw [Json.read, h]
  rfl

theorem Json.read_of_limit {text : String} {l : Limit} {place : List Char}
    (h : Reader.document text.toList = .error ⟨.limit l, place⟩) :
    ∃ e, Json.read text = .error e ∧ e.fault = .limit l := by
  rw [Json.read, h]
  exact ⟨_, rfl, rfl⟩

/-- A configuration is what is left of its text without comments and extra commas. -/
theorem Config.parse_of_document {text : String} {fields : Fields} (source : String)
    (h : Reader.document (Comments.dropCommas (Comments.remove text.toList)) =
      .ok (.object fields)) : Config.parse text source = .ok fields := by
  rw [← String.toList_ofList (l := Comments.dropCommas _)] at h
  rw [Config.parse, Comments.strip, read_of_document h]

theorem Config.parse_of_limit {text : String} {l : Limit} {place : List Char} (source : String)
    (h : Reader.document (Comments.dropCommas (Comments.remove text.toList)) =
      .error ⟨.limit l, place⟩) : Config.parse text source = .error (.beyond l) := by
  rw [← String.toList_ofList (l := Comments.dropCommas _)] at h
  obtain ⟨e, he, hfault⟩ := read_of_limit h
  rw [Config.parse, Comments.strip, he]
  simp [hfault]

/-- Comments and extra commas do not change a configuration: a decorated object has the fields of
the plain one, or both are beyond the same limit of the reader. -/
theorem Config.parse_of_decorates {ts : List Lexeme} (hts : Derives .value (.openObject :: ts))
    {plain text : String} (hplain : Writes (.openObject :: ts) plain.toList)
    (htext : Decorates (.openObject :: ts) text.toList) (source : String) :
    (∃ fields, Json.read plain = .ok (.object fields) ∧ Config.parse text source = .ok fields) ∨
      (¬ Fits Limit.maxDepth (.openObject :: ts) ∧ ∃ e l, Json.read plain = .error e ∧
        e.fault = .limit l ∧ Config.parse text source = .error (.beyond l)) := by
  have hstripped := htext.writes_strip hts
  rcases hts.document_eq hplain hstripped with
    ⟨fields, hread, hread'⟩ | ⟨hfits, l, ⟨place, hread⟩, place', hread'⟩
  · exact .inl ⟨fields, read_of_document hread, Config.parse_of_document source hread'⟩
  · obtain ⟨e, he, hfault⟩ := read_of_limit hread
    exact .inr ⟨hfits, e, l, he, hfault, Config.parse_of_limit source hread'⟩

/-- Quotes and marks of comments in all the wrong places: the comments hold quotes, the literals
hold marks of comments, and the extra commas meet their brackets only after the comments are gone.
-/
theorem Config.parse_of_decorates_hidden_marks :
    ∃ fields, Json.read "\x7b\"//\":[1,\"/*,]\\\"\"]\x7d" = .ok (.object fields) ∧
      Config.parse "// \"\n\x7b\"//\":[1/*\"*/,\"/*,]\\\"\",/**/],//,\n\x7d//\"" = .ok fields := by
  have hkey : LiteralBody ['/', '/'] :=
    .plain (by decide) (by decide) (by decide) (.plain (by decide) (by decide) (by decide) .nil)
  have hitem : LiteralBody ['/', '*', ',', ']', '\\', '"'] :=
    .plain (by decide) (by decide) (by decide) (.plain (by decide) (by decide) (by decide)
      (.plain (by decide) (by decide) (by decide) (.plain (by decide) (by decide) (by decide)
        (.escape (by decide) .nil))))
  have hnumber : NumberText ['1'] :=
    @NumberText.mk [] ['1'] [] [] (.inl rfl) (.inr ⟨⟨by decide, by simp⟩, by decide⟩)
      (.inl rfl) (.inl rfl)
  have hitems : Derives .items [.bare ['1'], .comma, .literal ['/', '*', ',', ']', '\\', '"']] :=
    .item (.bare (.number hnumber)) (.lastItem (.literal hitem))
  have hts : Derives .value (.openObject :: [.literal ['/', '/'], .colon, .openList, .bare ['1'],
      .comma, .literal ['/', '*', ',', ']', '\\', '"'], .closeList, .closeObject]) :=
    .object (.lastMember hkey (.list hitems))
  have hwhite : White [] := by simp [White]
  have hline : Gap ['/', '/', ' ', '"', '\n'] := @Gap.line [' ', '"'] [] (by decide) .nil
  have hline' : Gap ['/', '/', ',', '\n'] := @Gap.line [','] [] (by decide) .nil
  have hquote : Gap ['/', '*', '"', '*', '/'] := @Gap.block ['"'] [] (by decide) .nil
  have hempty : Gap ['/', '*', '*', '/'] := @Gap.block [] [] (by decide) .nil
  have hlast : LastGap ['/', '/', '"'] := @LastGap.line [] ['"'] .nil (by decide)
  -- Two brackets and one digit are within the limits.
  refine (Config.parse_of_decorates hts ?_ ?_ "<string>").resolve_right fun h =>
    h.1 ⟨fun us hus => ?_, by simp [Text.maxDigits]⟩
  · exact ⟨_, [], .cons hwhite (.cons hwhite (.cons hwhite (.cons hwhite (.cons hwhite (.cons hwhite
      (.cons hwhite (.cons hwhite (.cons hwhite .nil)))))))), hwhite, by decide +kernel⟩
  · exact ⟨_, _, .lexeme hline (.lexeme .nil (.lexeme .nil (.lexeme .nil (.lexeme .nil
      (.lexeme hquote (.lexeme .nil (.comma rfl .nil hempty (.comma rfl .nil hline' .nil)))))))),
      hlast, by decide +kernel⟩
  · exact Nat.le_trans hus.sublist.countP_le (Nat.le_add_left_of_le (by decide))

end FenceLint
