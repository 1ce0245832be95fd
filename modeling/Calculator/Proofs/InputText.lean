import Calculator.InputLine
import Calculator.Text.Whitespace

/-!
# Text as input

Text is put in as its UTF-8 bytes. A byte below 128 occurs in them only as the character it is, so the
newlines among the bytes are those of the text and the lines of the input are its lines. The carriage return
that a line end may begin with is white space at the end of a line of text, and does not decide whether a
line is text.
-/

set_option autoImplicit false

namespace Calculator

def Text.bytes (text : String) : List UInt8 :=
  text.toByteArray.data.toList

namespace Text

variable {text : String} {character : Char} {byte : UInt8}

theorem bytes_append (first second : String) : bytes (first ++ second) = bytes first ++ bytes second := by
  rw [bytes, String.toByteArray_append, ByteArray.data_append, Array.toList_append]
  rfl

theorem bytes_eq_encoded (text : String) :
    bytes text = text.toList.flatMap String.utf8EncodeChar := by
  rw [bytes, ← String.utf8Encode_toList, List.utf8Encode, List.data_toByteArray]

theorem from_utf8_bytes (text : String) :
    String.fromUTF8? (ByteArray.mk (bytes text).toArray) = some text := by
  have valid : text.toByteArray.IsValidUTF8 := text.isValidUTF8
  rw [bytes, Array.toArray_toList, String.fromUTF8?, dif_pos valid]
  rfl

/-- A character that has a byte below 128 consists of it alone. -/
theorem encoded_of_ascii (ascii : byte.toNat < 128) (member : byte ∈ String.utf8EncodeChar character) :
    String.utf8EncodeChar character = [byte] ∧ character.val.toNat = byte.toNat := by
  have high : ∀ value, 128 ≤ value % 256 → byte ≠ UInt8.ofNat value := by
    intro value bound same
    rw [same, UInt8.toNat_ofNat'] at ascii
    omega
  revert member
  fun_cases String.utf8EncodeChar character with
  | case1 value low =>
      intro member
      rw [List.mem_singleton.mp member, UInt8.toNat_ofNat']
      exact ⟨rfl, (Nat.mod_eq_of_lt (by omega)).symm⟩
  | case2 value beyond two =>
      intro member
      simp only [List.mem_cons, List.not_mem_nil, or_false] at member
      rcases member with same | same <;> exact absurd same (high _ (by omega))
  | case3 value beyond beyondTwo three =>
      intro member
      simp only [List.mem_cons, List.not_mem_nil, or_false] at member
      rcases member with same | same | same <;> exact absurd same (high _ (by omega))
  | case4 value beyond beyondTwo beyondThree =>
      intro member
      simp only [List.mem_cons, List.not_mem_nil, or_false] at member
      rcases member with same | same | same | same <;> exact absurd same (high _ (by omega))

theorem newline_mem_bytes : InputLine.newline ∈ bytes text ↔ '\n' ∈ text.toList := by
  rw [bytes_eq_encoded, List.mem_flatMap]
  constructor
  · intro found
    obtain ⟨character, member, encoded⟩ := found
    have same := (encoded_of_ascii (by decide) encoded).2
    have named : character = '\n' := Char.ext (UInt32.toNat_inj.mp same)
    rwa [named] at member
  · intro member
    exact ⟨'\n', member, by decide⟩

theorem bytes_snoc_return (front : String) :
    bytes (front ++ "\r") = bytes front ++ [InputLine.carriageReturn] := by
  have alone : bytes "\r" = [InputLine.carriageReturn] := by decide
  rw [bytes_append, alone]

theorem text_before_return {front : List UInt8}
    (ends : bytes text = front ++ [InputLine.carriageReturn]) :
    ∃ before, text = before ++ "\r" ∧ bytes before = front := by
  have whole : text.toList ≠ [] := by
    intro nothing
    rw [bytes_eq_encoded, nothing] at ends
    cases front <;> cases ends
  let final := text.toList.getLast whole
  have split : text.toList = text.toList.dropLast ++ [final] :=
    (List.dropLast_concat_getLast whole).symm
  have member : InputLine.carriageReturn ∈ String.utf8EncodeChar final := by
    have last := congrArg List.getLast? ends
    rw [bytes_eq_encoded, split, List.flatMap_append, List.flatMap_singleton, List.getLast?_append,
      List.getLast?_concat] at last
    cases encoded : (String.utf8EncodeChar final).getLast? with
    | none => exact absurd (List.getLast?_eq_none_iff.mp encoded) String.utf8EncodeChar_ne_nil
    | some byte =>
        rw [encoded, Option.some_or] at last
        rw [← Option.some.inj last]
        exact List.mem_of_getLast? encoded
  have named : final = '\r' := Char.ext (UInt32.toNat_inj.mp (encoded_of_ascii (by decide) member).2)
  obtain ⟨before, rfl⟩ : ∃ before, text = before ++ "\r" := by
    refine ⟨String.ofList text.toList.dropLast, String.toList_injective ?_⟩
    rw [String.toList_append, String.toList_ofList]
    rw [named] at split
    exact split
  rw [bytes_snoc_return] at ends
  exact ⟨before, rfl, List.append_cancel_right ends⟩

theorem bytes_injective {other : String} (same : bytes text = bytes other) : text = other := by
  have read := from_utf8_bytes text
  rw [same, from_utf8_bytes] at read
  exact (Option.some.inj read).symm

theorem bytes_of_from_utf8 {input : List UInt8}
    (read : String.fromUTF8? (ByteArray.mk input.toArray) = some text) : input = bytes text := by
  rw [String.fromUTF8?] at read
  split at read
  · cases read
    rfl
  · cases read

/-- The lines of a text. Behind a final newline stands an empty one. -/
def lines (text : String) : List String :=
  (text.toList.splitOn '\n').map String.ofList

theorem lines_of_last {line : String} (within : '\n' ∉ line.toList) : lines line = [line] := by
  rw [lines, List.splitOn_eq_singleton within, List.map_singleton, String.ofList_toList]

theorem lines_of_more {line : String} (within : '\n' ∉ line.toList) (rest : String) :
    lines (line ++ "\n" ++ rest) = line :: lines rest := by
  have characters : (line ++ "\n" ++ rest).toList = line.toList ++ '\n' :: rest.toList := by simp
  rw [lines, characters, List.splitOn_append_cons_self_of_not_mem within, List.map_cons,
    String.ofList_toList, lines]

theorem absent_around_newline {line rest : String}
    (absent : character ∉ (line ++ "\n" ++ rest).toList) :
    character ∉ line.toList ∧ character ∉ rest.toList := by
  rw [String.toList_append, String.toList_append, List.mem_append, List.mem_append, not_or,
    not_or] at absent
  exact ⟨absent.1.1, absent.2⟩

/-- A text is its last line, or a line and a newline before a text. -/
theorem induction_on_lines {holds : String → Prop}
    (last : ∀ line, '\n' ∉ line.toList → holds line)
    (more : ∀ line rest, '\n' ∉ line.toList → holds rest → holds (line ++ "\n" ++ rest))
    (text : String) : holds text := by
  induction size : text.toList.length using Nat.strongRecOn generalizing text with
  | ind length ih =>
      by_cases within : '\n' ∈ text.toList
      · obtain ⟨front, behind, split, first⟩ := List.eq_append_cons_of_mem within
        have written : text = String.ofList front ++ "\n" ++ String.ofList behind := by
          apply String.toList_injective
          simp [split]
        rw [written]
        apply more _ _ (by rwa [String.toList_ofList])
        apply ih behind.length _ _ (by rw [String.toList_ofList])
        rw [← size, split, List.length_append, List.length_cons]
        omega
      · exact last text within

end Text

namespace InputLine

variable {front rest : List UInt8}

theorem split_of_line (within : newline ∉ front) :
    split (front ++ newline :: rest) = { bytes := front, terminated := true } :: split rest := by
  induction front with
  | nil => rw [List.nil_append, split, if_pos rfl]
  | cons byte front ih =>
      rw [List.mem_cons, not_or] at within
      obtain ⟨other, later⟩ := within
      rw [List.cons_append, split, if_neg (Ne.symm other), ih later]

theorem split_of_last (within : newline ∉ front) (whole : front ≠ []) :
    split front = [{ bytes := front, terminated := false }] := by
  induction front with
  | nil => exact absurd rfl whole
  | cons byte front ih =>
      rw [List.mem_cons, not_or] at within
      obtain ⟨other, later⟩ := within
      rw [split, if_neg (Ne.symm other)]
      by_cases more : front = []
      · rw [more]
        rfl
      · rw [ih later more]

def ofText (text : String) (terminated : Bool) : InputLine where
  bytes := Text.bytes text
  terminated := terminated

theorem split_bytes_of_line {line : String} (within : '\n' ∉ line.toList) (rest : List UInt8) :
    split (Text.bytes (line ++ "\n") ++ rest) = ofText line true :: split rest := by
  have alone : Text.bytes "\n" = [newline] := by decide
  rw [Text.bytes_append, alone, List.append_assoc]
  exact split_of_line (mt Text.newline_mem_bytes.mp within)

theorem split_bytes_of_last {line : String} (within : '\n' ∉ line.toList) :
    line = "" ∧ split (Text.bytes line) = [] ∨ split (Text.bytes line) = [ofText line false] := by
  by_cases whole : Text.bytes line = []
  · rw [whole]
    exact Or.inl ⟨Text.bytes_injective (whole.trans rfl), rfl⟩
  · exact Or.inr (split_of_last (mt Text.newline_mem_bytes.mp within) whole)

theorem content_cases (line : InputLine) :
    line.content = line.bytes ∨ line.bytes = line.content ++ [carriageReturn] := by
  unfold content
  split
  · next returns =>
      rw [Bool.and_eq_true, beq_iff_eq] at returns
      obtain ⟨front, split⟩ := List.getLast?_eq_some_iff.mp returns.2
      rw [split, List.dropLast_concat]
      exact Or.inr rfl
  · exact Or.inl rfl

theorem text_of_plain {line : InputLine} {text : String} (plain : Text.backspace ∉ text.toList)
    (content : line.content = Text.bytes text) : line.text = .ok text := by
  have kept : Text.applyBackspaces? text = some text := by
    rw [Text.applyBackspaces?, if_neg (by simpa using plain)]
  unfold InputLine.text
  rw [content, Text.from_utf8_bytes]
  simp only [kept]

theorem text_of_text {text : String} (plain : Text.backspace ∉ text.toList) (terminated : Bool) :
    ∃ typed, (ofText text terminated).text = .ok typed ∧
      Text.stripWhitespace typed = Text.stripWhitespace text := by
  rcases (ofText text terminated).content_cases with whole | returns
  · exact ⟨text, text_of_plain plain whole, rfl⟩
  · obtain ⟨before, rfl, content⟩ := Text.text_before_return returns
    refine ⟨before, text_of_plain ?_ content.symm, ?_⟩
    · intro member
      apply plain
      rw [String.toList_append]
      exact List.mem_append_left _ member
    · have blank : Text.isWhitespace '\r' = true := by decide
      simp [Text.stripWhitespace, blank]

/-- A line of other bytes is not read. -/
theorem text_of_bytes {line : InputLine}
    (bad : String.fromUTF8? (ByteArray.mk line.bytes.toArray) = none) :
    line.text = .error .notText := by
  have unread : String.fromUTF8? (ByteArray.mk line.content.toArray) = none := by
    rcases line.content_cases with whole | returns
    · rw [whole]
      exact bad
    · cases read : String.fromUTF8? (ByteArray.mk line.content.toArray) with
      | none => rfl
      | some text =>
          -- The carriage return would be text behind text.
          rw [returns, Text.bytes_of_from_utf8 read, ← Text.bytes_snoc_return, Text.from_utf8_bytes] at bad
          cases bad
  unfold InputLine.text
  rw [unread]

end InputLine

end Calculator
