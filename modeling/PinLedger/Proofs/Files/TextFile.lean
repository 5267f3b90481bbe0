/-
# Files of texts

A file that was made from a text is read as this text.

Key definitions: `Content.ofText`.
Key theorems: `Content.decodeUtf8?_ofText`, `readToml_of_text`.
-/
import PinLedger.Manifest.File

namespace PinLedger

namespace Content

/-- The content of a file with a text. -/
def ofText (s : String) : Content := .octets s.toUTF8.data.toList

theorem decodeUtf8?_ofText (s : String) : Document.decodeUtf8? (ofText s).toOctets = some s := by
  change String.fromUTF8? (ByteArray.mk s.toUTF8.data.toList.toArray) = some s
  rw [Array.toArray_toList]
  exact dif_pos s.isValidUTF8

end Content

theorem readToml_of_text {t : FileTree} {path : Path} {text : String} {document : Document.Value}
    (hfile : t.find path = .ok (.file (.ofText text)))
    (hdocument : Toml.parse text = .ok document) : readToml t path = .ok document := by
  unfold readToml FileTree.read
  rw [hfile]
  dsimp only
  rw [Content.decodeUtf8?_ofText]
  dsimp only
  rw [hdocument]
  rfl

end PinLedger
