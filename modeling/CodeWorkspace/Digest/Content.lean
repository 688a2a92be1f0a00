import CodeWorkspace.Digest.Blake3
import CodeWorkspace.Json.Printer
import CodeWorkspace.Schema.Snapshot

/-!
# Content digests

The digest of a document is that of its JSON text.  The digest of a project is that of the bytes of
its identity followed by its JSON text.  Equal contents have equal texts, so digests tell whether
two documents or projects differ.
-/

namespace CodeWorkspace

/-- The bytes of a text in UTF-8. -/
def Text.bytes (text : String) : List UInt8 := text.toUTF8.toList

/-- A walk along bytes lists those that lie ahead of it behind those that it has listed. -/
theorem Text.toList_loop (bytes : ByteArray) (place : Nat) (listed : List UInt8) :
    ByteArray.toList.loop bytes place listed = listed.reverse ++ bytes.data.toList.drop place := by
  fun_induction ByteArray.toList.loop bytes place listed with
  | case1 place listed inside ih =>
    have within : place < bytes.data.toList.length := inside
    have there : bytes.get! place = bytes.data.toList[place] := getElem!_pos bytes.data place inside
    rw [ih, List.drop_eq_getElem_cons within, there, List.reverse_cons, List.append_assoc,
      List.singleton_append]
  | case2 place listed outside =>
    rw [List.drop_eq_nil_of_le (Nat.le_of_not_lt outside), List.append_nil]

/-- A text has the bytes of its characters. -/
theorem Text.bytes_ofList (characters : List Char) :
    bytes (String.ofList characters) = characters.flatMap String.utf8EncodeChar := by
  rw [bytes, String.toUTF8_eq_toByteArray, String.toByteArray_ofList, ByteArray.toList, toList_loop,
    List.reverse_nil, List.nil_append, List.drop_zero, List.utf8Encode,
    List.toList_data_toByteArray]

/-- The JSON text of a document. -/
def Document.text (document : Document) : String := document.tree.compact

/-- The digest of a document. -/
def Document.digest (document : Document) : String :=
  Digest.Blake3.hexDigest (Text.bytes document.text)

theorem Document.digest_eq (document : Document) : document.digest =
    Digest.Blake3.hexDigest (document.tree.compactChars.flatMap String.utf8EncodeChar) := by
  rw [digest, text, Json.Tree.compact, Text.bytes_ofList]

/-- The JSON text of a project. -/
def Project.text (project : Project) : String := project.tree.compact

/-- The digest of a project. -/
def Project.digest (project : Project) : String :=
  Digest.Blake3.hexDigest (project.id.uuid.bytes ++ Text.bytes project.text)

theorem Project.digest_eq (project : Project) : project.digest = Digest.Blake3.hexDigest
    (project.id.uuid.bytes ++ project.tree.compactChars.flatMap String.utf8EncodeChar) := by
  rw [digest, text, Json.Tree.compact, Text.bytes_ofList]

end CodeWorkspace
