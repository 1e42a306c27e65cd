import MessageTemplate.Diagnostic
import MessageTemplate.Proofs.Locality

/-!
# What a diagnostic points at

A fault is found at a position counted in characters, and a diagnostic shows it as a span counted
in bytes. The span is that of the one character at the position: it begins behind the bytes of the
characters before it, whatever their sizes. At the end of a text it is empty.
-/

namespace MessageTemplate

namespace ByteSpan

/-- A span is where `inside` stands in a text, behind `before`. -/
structure Covers (span : ByteSpan) (text before inside : String) : Prop where
  whole : ∃ behind, text = before ++ inside ++ behind
  offset_eq : span.offset = before.utf8ByteSize
  length_eq : span.length = inside.utf8ByteSize

namespace Covers

variable {span : ByteSpan} {text before inside : String}

theorem offset_add_length_le (covers : span.Covers text before inside) :
    span.offset + span.length ≤ text.utf8ByteSize := by
  obtain ⟨⟨behind, rfl⟩, offset, length⟩ := covers
  rw [offset, length, String.utf8ByteSize_append, String.utf8ByteSize_append]
  exact Nat.le_add_right _ _

/-- A span begins between two characters. -/
theorem isValid_offset (covers : span.Covers text before inside) :
    String.Pos.Raw.IsValid text ⟨span.offset⟩ := by
  obtain ⟨⟨behind, rfl⟩, offset, -⟩ := covers
  rw [String.Pos.Raw.isValid_iff_exists_append]
  exact ⟨before, inside ++ behind, String.append_assoc, congrArg String.Pos.Raw.mk offset⟩

/-- A span ends between two characters. -/
theorem isValid_end (covers : span.Covers text before inside) :
    String.Pos.Raw.IsValid text ⟨span.offset + span.length⟩ := by
  obtain ⟨⟨behind, rfl⟩, offset, length⟩ := covers
  rw [String.Pos.Raw.isValid_iff_exists_append]
  refine ⟨before ++ inside, behind, rfl, congrArg String.Pos.Raw.mk ?_⟩
  rw [offset, length, String.utf8ByteSize_append]

theorem bytes_before (covers : span.Covers text before inside) :
    text.toUTF8.extract 0 span.offset = before.toUTF8 := by
  obtain ⟨⟨behind, rfl⟩, offset, -⟩ := covers
  rw [String.append_assoc]
  simp only [String.toUTF8_eq_toByteArray, String.toByteArray_append]
  exact ByteArray.extract_append_eq_left (offset.trans String.size_toByteArray.symm)

theorem bytes_inside (covers : span.Covers text before inside) :
    text.toUTF8.extract span.offset (span.offset + span.length) = inside.toUTF8 := by
  obtain ⟨⟨behind, rfl⟩, offset, length⟩ := covers
  rw [offset, length, String.append_assoc]
  simp only [String.toUTF8_eq_toByteArray, String.toByteArray_append, ← String.size_toByteArray]
  have behindBefore := ByteArray.extract_append_size_add (a := before.toByteArray)
    (b := inside.toByteArray ++ behind.toByteArray) (i := 0) (j := inside.toByteArray.size)
  rw [Nat.add_zero] at behindBefore
  exact behindBefore.trans (ByteArray.extract_append_eq_left rfl)

end Covers

/-! ## The span of a position -/

theorem find_eq (offset position : Nat) (characters : List Char) :
    find offset position characters =
      ⟨offset + (String.ofList (characters.take position)).utf8ByteSize,
        (String.ofList ((characters.drop position).take 1)).utf8ByteSize⟩ := by
  fun_induction find offset position characters with
  | case1 => simp
  | case2 => simp
  | case3 offset position character rest inductionHypothesis =>
    rw [inductionHypothesis]
    simp [Nat.add_assoc]

/-- The span of a position is where the character at the position stands, behind as many
characters as the position says. -/
theorem covers_ofPosition (text : String) (position : Nat) :
    (ofPosition text position).Covers text (String.ofList (text.toList.take position))
      (String.ofList ((text.toList.drop position).take 1)) := by
  rw [ofPosition, find_eq, Nat.zero_add]
  refine ⟨⟨String.ofList ((text.toList.drop position).drop 1), ?_⟩, rfl, rfl⟩
  rw [String.append_assoc, ← String.ofList_append, ← String.ofList_append, List.take_append_drop,
    List.take_append_drop, String.ofList_toList]

/-- At the end of a text the span is empty. -/
theorem ofPosition_length (text : String) :
    ofPosition text text.length = ⟨text.utf8ByteSize, 0⟩ := by
  rw [ofPosition, find_eq, ← String.length_toList]
  simp

end ByteSpan

namespace Diagnostic

variable {π : Type}

/-- The diagnostic for a template that a parser with the built-in kinds rejects points at the
character where the fault shows, or at the end of the template. -/
theorem span_ofParseError {maxDepth : Nat} {template : String} {error : ParseError}
    (failed : (Parser.parse { maxDepth } template : Except ParseError (Tree π)) = .error error)
    (knownKinds : List String) :
    let span := (ofParseError template error knownKinds).span
    span.offset + span.length ≤ template.utf8ByteSize ∧
      String.Pos.Raw.IsValid template ⟨span.offset⟩ ∧
      String.Pos.Raw.IsValid template ⟨span.offset + span.length⟩ ∧
      template.toUTF8.extract 0 span.offset =
        (String.ofList (template.toList.take error.position)).toUTF8 ∧
      ((∃ character, template.toList[error.position]? = some character ∧
          template.toUTF8.extract span.offset (span.offset + span.length) =
            (String.singleton character).toUTF8) ∨
        error.position = template.length ∧ span = ⟨template.utf8ByteSize, 0⟩) := by
  intro span
  have covers : span.Covers template _ _ := ByteSpan.covers_ofPosition template error.position
  refine ⟨covers.offset_add_length_le, covers.isValid_offset, covers.isValid_end,
    covers.bytes_before, ?_⟩
  rcases (Parser.position_le_of_parse KindRegistry.isLocal_empty failed).lt_or_eq with
    inside | atEnd
  · rw [← String.length_toList] at inside
    refine .inl ⟨template.toList[error.position], List.getElem?_eq_getElem inside, ?_⟩
    rw [covers.bytes_inside, List.drop_eq_getElem_cons inside, List.take_succ_cons, List.take_zero,
      String.ofList_cons, String.ofList_nil, String.append_empty]
  · refine .inr ⟨atEnd, ?_⟩
    rw [show span = .ofPosition template error.position from rfl, atEnd,
      ByteSpan.ofPosition_length]

/-- A letter of two bytes where a kind should end, behind one of three and one of four. -/
theorem span_ofParseError_invalidFormat :
    (Parser.parse { maxDepth := 64 } "€😀\x7bné" : Except ParseError (Tree Unit)) =
        .error ⟨.invalidFormat, 4⟩ ∧
      "€😀\x7bné".toUTF8.extract 9 11 = "é".toUTF8 := by
  have failed : (Parser.parse { maxDepth := 64 } "€😀\x7bné" : Except ParseError (Tree Unit)) =
      .error ⟨.invalidFormat, 4⟩ := by with_unfolding_all rfl
  refine ⟨failed, ?_⟩
  obtain ⟨-, -, -, -, ⟨character, present, bytes⟩ | ⟨impossible, -⟩⟩ := span_ofParseError failed []
  · obtain rfl : 'é' = character := by simpa using present
    exact bytes
  · exact absurd impossible (by decide)

end Diagnostic

end MessageTemplate
