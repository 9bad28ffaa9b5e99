import Mathlib.Data.List.Basic
import Reckon.Proofs.Run
import Reckon.Text.Line

/-!
Contract: texts as lines of a stream.

Owns:
- the first line of a stream, and the lines behind it;
- that a byte in the ASCII range stands for an ASCII character and is no part of another one;
- that the bytes of an unbroken text are one line, and that the text is read back from them;
- which bytes can be decoded, and that an ASCII byte at their end makes no difference to it;
- lines of bytes with the newline that ends them, and what is split off a stream for each.

Does not own: what is done with a line.
-/

set_option autoImplicit false

namespace Reckon.Text.Line

/-! ### The first line of a stream -/

theorem dropCarriageReturn_of_head?_ne {bytes : List UInt8}
    (kept : bytes.head? ≠ some carriageReturn) : dropCarriageReturn bytes = bytes := by
  cases bytes with
  | nil => rfl
  | cons byte rest =>
      have differs : byte ≠ carriageReturn := fun same => kept (congrArg some same)
      rw [dropCarriageReturn, if_neg differs]

theorem splitAfter_append_newline {body : List UInt8} (unbroken : newline ∉ body)
    (taken rest : List UInt8) :
    splitAfter taken (body ++ newline :: rest) =
      (dropCarriageReturn (body.reverse ++ taken)).reverse :: split rest := by
  induction body generalizing taken with
  | nil =>
      rw [List.nil_append, splitAfter, if_pos rfl]
      rfl
  | cons byte below inductionHypothesis =>
      obtain ⟨differs, unbrokenBelow⟩ := List.ne_and_not_mem_of_not_mem_cons unbroken
      rw [List.cons_append, splitAfter, if_neg (Ne.symm differs),
        inductionHypothesis unbrokenBelow (byte :: taken), List.reverse_cons,
        List.append_cons]

/-- What stands before the first newline of a stream is its first line. -/
theorem split_append_newline {body : List UInt8} (unbroken : newline ∉ body) (rest : List UInt8) :
    split (body ++ newline :: rest) =
      (dropCarriageReturn body.reverse).reverse :: split rest := by
  have first := splitAfter_append_newline unbroken [] rest
  rwa [List.append_nil] at first

/-! ### The bytes of a text -/

theorem encode_eq_flatMap (text : String) :
    encode text = text.toList.flatMap String.utf8EncodeChar := by
  rw [encode, String.toUTF8_eq_toByteArray, ← String.utf8Encode_toList, List.utf8Encode,
    List.toList_data_toByteArray]

theorem encode_append (left right : String) :
    encode (left ++ right) = encode left ++ encode right := by
  rw [encode_eq_flatMap, encode_eq_flatMap, encode_eq_flatMap, String.toList_append,
    List.flatMap_append]

theorem decode?_encode (text : String) : decode? (encode text) = some text := by
  have bytes : (⟨(encode text).toArray⟩ : ByteArray) = text.toByteArray := rfl
  rw [decode?, bytes, String.fromUTF8?, dif_pos text.isValidUTF8]
  rfl

/-- The bytes of a character beyond the ASCII range lie beyond it as well. -/
theorem le_toNat_of_mem_utf8EncodeChar {character : Char} {byte : UInt8}
    (beyond : 128 ≤ character.toNat) (member : byte ∈ String.utf8EncodeChar character) :
    128 ≤ byte.toNat := by
  have several : ¬character.val.toNat ≤ 127 := Nat.not_le.2 beyond
  unfold String.utf8EncodeChar at member
  simp only [several, if_false] at member
  -- One case for each number of bytes, two, three and four.
  split at member
  · simp only [List.mem_cons, List.not_mem_nil, or_false] at member
    rcases member with rfl | rfl <;> rw [UInt8.toNat_ofNat'] <;> omega
  · split at member
    · simp only [List.mem_cons, List.not_mem_nil, or_false] at member
      rcases member with rfl | rfl | rfl <;> rw [UInt8.toNat_ofNat'] <;> omega
    · simp only [List.mem_cons, List.not_mem_nil, or_false] at member
      rcases member with rfl | rfl | rfl | rfl <;> rw [UInt8.toNat_ofNat'] <;> omega

/-- A byte in the ASCII range is its own character, and no part of another one. -/
theorem toNat_eq_of_mem_utf8EncodeChar {character : Char} {byte : UInt8} (ascii : byte.toNat < 128)
    (member : byte ∈ String.utf8EncodeChar character) : character.toNat = byte.toNat := by
  by_cases single : character.val.toNat ≤ 127
  · unfold String.utf8EncodeChar at member
    simp only [single, if_true, List.mem_singleton] at member
    rw [member, UInt8.toNat_ofNat', Nat.mod_eq_of_lt (by omega)]
    rfl
  · have beyond := le_toNat_of_mem_utf8EncodeChar (Nat.not_le.1 single) member
    exact absurd ascii (Nat.not_lt.2 beyond)

theorem newline_notMem_encode {text : String} (unbroken : '\n' ∉ text.toList) :
    newline ∉ encode text := by
  intro member
  rw [encode_eq_flatMap] at member
  obtain ⟨character, inText, inCharacter⟩ := List.mem_flatMap.1 member
  have same : character.toNat = '\n'.toNat := toNat_eq_of_mem_utf8EncodeChar (by decide) inCharacter
  rw [Char.toNat_inj.1 same] at inText
  exact unbroken inText

theorem getLast?_encode_ne {text : String} (kept : text.toList.getLast? ≠ some '\r') :
    (encode text).getLast? ≠ some carriageReturn := by
  intro last
  rw [encode_eq_flatMap] at last
  rcases List.eq_nil_or_concat text.toList with empty | ⟨front, character, concatEq⟩
  · rw [empty] at last
    cases last
  · rw [concatEq, List.concat_eq_append, List.flatMap_append, List.flatMap_singleton,
      List.getLast?_append_of_ne_nil _ String.utf8EncodeChar_ne_nil] at last
    have same : character.toNat = '\r'.toNat :=
      toNat_eq_of_mem_utf8EncodeChar (by decide) (List.mem_of_getLast? last)
    rw [concatEq, List.concat_eq_append, List.getLast?_concat, Char.toNat_inj.1 same] at kept
    exact kept rfl

/-! ### Decoding -/

variable {bytes : List UInt8} {byte : UInt8}

theorem isSome_decode?_iff : (decode? bytes).isSome ↔ ∃ text, encode text = bytes := by
  constructor
  · intro decoded
    rw [decode?, String.fromUTF8?] at decoded
    split at decoded
    · next valid => exact ⟨String.fromUTF8 ⟨bytes.toArray⟩ valid, rfl⟩
    · cases decoded
  · rintro ⟨text, rfl⟩
    rw [decode?_encode]
    rfl

theorem utf8EncodeChar_of_ascii {character : Char} (ascii : character.toNat < 128) :
    String.utf8EncodeChar character = [character.toNat.toUInt8] := by
  have single : character.val.toNat ≤ 127 := Nat.le_of_lt_succ ascii
  unfold String.utf8EncodeChar
  simp only [single, if_true]
  rfl

/-- An ASCII byte at the end of a text is its last character. -/
theorem exists_encode_of_concat {text : String} (ascii : byte.toNat < 128)
    (encoded : encode text = bytes ++ [byte]) : ∃ front, encode front = bytes := by
  rw [encode_eq_flatMap] at encoded
  rcases List.eq_nil_or_concat text.toList with empty | ⟨front, character, concatEq⟩
  · rw [empty] at encoded
    simp at encoded
  · rw [concatEq, List.concat_eq_append, List.flatMap_append, List.flatMap_singleton] at encoded
    have last : (String.utf8EncodeChar character).getLast? = some byte := by
      rw [← List.getLast?_append_of_ne_nil _ String.utf8EncodeChar_ne_nil, encoded,
        List.getLast?_concat]
    have codeEq := toNat_eq_of_mem_utf8EncodeChar ascii (List.mem_of_getLast? last)
    rw [utf8EncodeChar_of_ascii (by omega)] at encoded
    refine ⟨String.ofList front, ?_⟩
    rw [encode_eq_flatMap, String.toList_ofList]
    exact List.append_inj_left' encoded rfl

theorem isSome_decode?_concat (ascii : byte.toNat < 128) :
    (decode? (bytes ++ [byte])).isSome = (decode? bytes).isSome := by
  rw [Bool.eq_iff_iff, isSome_decode?_iff, isSome_decode?_iff]
  constructor
  · rintro ⟨text, encoded⟩
    exact exists_encode_of_concat ascii encoded
  · rintro ⟨text, encoded⟩
    have valid : byte.toNat.isValidChar := .inl (by omega)
    have code : (Char.ofNat byte.toNat).toNat = byte.toNat := by
      rw [Char.ofNat, dif_pos valid]
      rfl
    refine ⟨text ++ String.singleton (Char.ofNat byte.toNat), ?_⟩
    have mark : encode (String.singleton (Char.ofNat byte.toNat)) = [byte] := by
      rw [encode_eq_flatMap, String.toList_singleton, List.flatMap_singleton,
        utf8EncodeChar_of_ascii (by omega), code]
      simp
    rw [encode_append, encoded, mark]

/-! ### Texts on lines -/

theorem split_encode_append_newline {text : String} (unbroken : IsUnbroken text)
    (rest : List UInt8) :
    split (encode text ++ newline :: rest) = encode text :: split rest := by
  have kept : (encode text).reverse.head? ≠ some carriageReturn := by
    rw [List.head?_reverse]
    exact getLast?_encode_ne unbroken.2
  rw [split_append_newline (newline_notMem_encode unbroken.1),
    dropCarriageReturn_of_head?_ne kept, List.reverse_reverse]

/-! ### Lines of bytes -/

/-- Bytes with a newline at their end and nowhere else. -/
def IsEnded (line : List UInt8) : Prop :=
  ∃ body, newline ∉ body ∧ line = body ++ [newline]

/-- The bytes that end a line make no difference to whether it can be decoded. -/
theorem isSome_decode?_reverse_dropCarriageReturn (body : List UInt8) :
    (decode? (dropCarriageReturn body.reverse).reverse).isSome = (decode? body).isSome := by
  rcases List.eq_nil_or_concat body with rfl | ⟨front, last, rfl⟩
  · rfl
  · rw [List.concat_eq_append, List.reverse_append, List.reverse_singleton, List.singleton_append,
      dropCarriageReturn]
    split
    · next isCarriageReturn =>
        rw [List.reverse_reverse, isCarriageReturn, isSome_decode?_concat (by decide)]
    · rw [List.reverse_cons, List.reverse_reverse]

/-- A line of bytes is split off, without the bytes that end it. -/
theorem IsEnded.exists_content {line : List UInt8} (ended : IsEnded line) :
    ∃ content, (∀ rest, split (line ++ rest) = content :: split rest) ∧
      (decode? content).isSome = (decode? line).isSome := by
  obtain ⟨body, unbroken, rfl⟩ := ended
  refine ⟨(dropCarriageReturn body.reverse).reverse, ?_, ?_⟩
  · intro rest
    rw [List.append_assoc, List.singleton_append, split_append_newline unbroken]
  · rw [isSome_decode?_reverse_dropCarriageReturn, isSome_decode?_concat (by decide)]

theorem decode?_split_of_undecodable {line : List UInt8} (ended : IsEnded line)
    (undecodable : decode? line = none) (rest : List UInt8) :
    (split (line ++ rest)).map decode? = none :: (split rest).map decode? := by
  obtain ⟨content, splitOff, same⟩ := ended.exists_content
  rw [undecodable] at same
  rw [splitOff, List.map_cons, Option.isNone_iff_eq_none.1 (Option.isSome_eq_false_iff.1 same)]

/-- Lines of bytes that can be decoded are texts, whatever stands behind them. -/
theorem exists_texts {lines : List (List UInt8)}
    (decodable : ∀ line ∈ lines, IsEnded line ∧ (decode? line).isSome) :
    ∃ texts : List String, ∀ rest,
      (split (lines.flatten ++ rest)).map decode? = texts.map some ++ (split rest).map decode? := by
  induction lines with
  | nil => exact ⟨[], fun _ => rfl⟩
  | cons line others inductionHypothesis =>
      obtain ⟨⟨ended, decoded⟩, othersDecodable⟩ := List.forall_mem_cons.1 decodable
      obtain ⟨texts, othersEq⟩ := inductionHypothesis othersDecodable
      obtain ⟨content, splitOff, same⟩ := ended.exists_content
      obtain ⟨text, textEq⟩ := Option.isSome_iff_exists.1 (same.trans decoded)
      refine ⟨text :: texts, ?_⟩
      intro rest
      rw [List.flatten_cons, List.append_assoc, splitOff, List.map_cons, othersEq, textEq]
      rfl

end Reckon.Text.Line
