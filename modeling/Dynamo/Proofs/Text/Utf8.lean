import Dynamo.Text.Utf8
import Mathlib.Data.List.Basic

/-! # Texts and their bytes

The bytes of a text are those of its characters, one after the other, and give the text back. -/

namespace Dynamo.Bytes

theorem ofString_eq_flatMap (s : String) :
    ofString s = s.toList.flatMap String.utf8EncodeChar := by
  show s.toByteArray.data.toList = _
  rw [← String.utf8Encode_toList]
  simp [List.utf8Encode]

theorem text?_ofString (s : String) : text? (ofString s) = some s := by
  have hbytes : (⟨(ofString s).toArray⟩ : ByteArray) = s.toByteArray := rfl
  rw [text?, hbytes, String.fromUTF8?, dif_pos s.isValidUTF8]
  rfl

theorem ofString_of_text? {bs : Bytes} {s : String} (h : text? bs = some s) : ofString s = bs := by
  unfold text? String.fromUTF8? at h
  split at h
  · obtain rfl := Option.some.inj h
    rfl
  · exact absurd h nofun

/-- Different texts have different bytes. -/
theorem ofString_injective {s t : String} (h : ofString s = ofString t) : s = t :=
  Option.some.inj ((text?_ofString s).symm.trans (h ▸ text?_ofString t))

theorem mem_ofString_of_mem {s : String} {c : Char} {b : UInt8} (hc : c ∈ s.toList)
    (hb : b ∈ String.utf8EncodeChar c) : b ∈ ofString s := by
  rw [ofString_eq_flatMap]
  exact List.mem_flatMap.mpr ⟨c, hc, hb⟩

end Dynamo.Bytes
