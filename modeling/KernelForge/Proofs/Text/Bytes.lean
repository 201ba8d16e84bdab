import KernelForge.Proofs.Text.Cut
import KernelForge.Text.Bytes
import Mathlib.Data.List.Basic

/-!
The bytes of texts. A text whose characters have one byte each comes back from its bytes.
-/

namespace KernelForge.Text

/-- A character of one byte. -/
def isSingle (character : Char) : Bool :=
  character.toNat < 0x80

@[simp]
theorem bytesOf_append (first second : String) : bytesOf (first ++ second) = bytesOf first ++ bytesOf second := by
  simp [bytesOf]

theorem toNat_of_isSingle {character : Char} (single : isSingle character = true) :
    character.toNat.toUInt8.toNat = character.toNat := by
  have below : character.toNat < 0x80 := by simpa [isSingle] using single
  rw [Nat.toUInt8_eq, UInt8.toNat_ofNat']
  omega

theorem encode_of_isSingle {character : Char} (single : isSingle character = true) :
    String.utf8EncodeChar character = [character.toNat.toUInt8] := by
  have below : character.toNat < 0x80 := by simpa [isSingle] using single
  exact if_pos (Nat.le_of_lt_succ below)

theorem bytesOf_of_within {text : String} (single : Within isSingle text) :
    bytesOf text = text.toList.map fun character => character.toNat.toUInt8 := by
  rw [bytesOf, List.flatMap_congr fun character member => encode_of_isSingle (single character member)]
  exact List.flatMap_pure_eq_map _ _

theorem charactersFrom_of_single {characters : List Char}
    (single : ∀ character ∈ characters, isSingle character = true) :
    charactersFrom 0 (characters.map fun character => character.toNat.toUInt8) = characters := by
  induction characters with
  | nil => rfl
  | cons first rest ih =>
    rw [List.forall_mem_cons] at single
    have byte := toNat_of_isSingle single.1
    have least : first.toNat.toUInt8 < 0x80 := by
      rw [UInt8.lt_iff_toNat_lt, byte]
      simpa [isSingle] using single.1
    have decoded (rest : List UInt8) : character? first.toNat.toUInt8 rest = some (first, 0) := by
      simp [character?, followers?, least, leadBits, byte]
    rw [List.map_cons, charactersFrom, decoded]
    dsimp only
    rw [ih single.2]

theorem ofBytes_bytesOf {text : String} (single : Within isSingle text) : ofBytes (bytesOf text) = text := by
  rw [bytesOf_of_within single, ofBytes, charactersFrom_of_single single, String.ofList_toList]

end KernelForge.Text
