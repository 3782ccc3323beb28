/-!
# Reading UTF-8

The characters of a byte string.  A byte that begins no well-formed character is
kept as `none`, and reading goes on with the byte after it, so that no error in
one place hides the characters after it.
-/

namespace FareGateway

def leadingChar? (bytes : List UInt8) : Option Char :=
  (bytes.take 4).toByteArray.utf8DecodeChar? 0

def glyphsOf (bytes : List UInt8) : List (Option Char) :=
  match bytes with
  | [] => []
  | byte :: rest =>
      match leadingChar? (byte :: rest) with
      | some c => some c :: glyphsOf (rest.drop (c.utf8Size - 1))
      | none => none :: glyphsOf rest
termination_by bytes.length
decreasing_by all_goals simp; try omega

theorem leadingChar?_encode_append (c : Char) (bytes : List UInt8) :
    leadingChar? (String.utf8EncodeChar c ++ bytes) = some c := by
  have hsize : (String.utf8EncodeChar c).length ≤ 4 := by
    simpa using Char.utf8Size_le_four c
  rw [leadingChar?, List.take_append, List.take_of_length_le hsize,
    List.toByteArray_append, ByteArray.utf8DecodeChar?_utf8EncodeChar_append]

theorem glyphsOf_encode (cs : List Char) :
    glyphsOf (cs.flatMap String.utf8EncodeChar) = cs.map some := by
  induction cs with
  | nil => simp [glyphsOf]
  | cons c cs ih =>
      have hlength : (String.utf8EncodeChar c).length = c.utf8Size := by simp
      have hchar := leadingChar?_encode_append c (cs.flatMap String.utf8EncodeChar)
      have hpos := c.utf8Size_pos
      rw [List.flatMap_cons]
      match hbytes : String.utf8EncodeChar c with
      | [] => simp [hbytes] at hlength; omega
      | byte :: rest =>
          rw [hbytes] at hchar hlength
          simp only [List.cons_append] at hchar ⊢
          rw [glyphsOf, hchar]
          simp only [List.length_cons] at hlength
          have hrest : rest.length = c.utf8Size - 1 := by omega
          simp [← hrest, ih]

theorem glyphsOf_toUTF8 (text : String) :
    glyphsOf text.toUTF8.data.toList = text.toList.map some := by
  have hbytes : text.toUTF8.data.toList = text.toList.flatMap String.utf8EncodeChar := by
    rw [String.toUTF8, ← String.utf8Encode_toList, List.utf8Encode, List.data_toByteArray]
  rw [hbytes, glyphsOf_encode]

end FareGateway
