import KernelForge.Device
import KernelForge.Proofs.Text.Cut
import KernelForge.Proofs.Text.Numeral

/-!
The texts that name a supported GPU generation. A text names the number of its numeral, which may stand behind the word
`apple`. The number is reduced modulo 256 before it is compared with the supported generations, so each of them answers
to every number of its residue class that fits 64 bits; without a reduction the three numbers alone are taken.
-/

namespace KernelForge

/-- The number that a text names, whatever the case and the blanks around it. -/
def NamesGeneration (text : String) (value : Int) : Prop :=
  ∃ start ∈ ["", "apple"], ∃ numeral : String,
    Text.lower (Text.trim text) = start ++ numeral ∧ Text.Denotes numeral.toList value

/-- No numeral starts with the word. -/
theorem not_denotes_apple (rest : String) (value : Int) : ¬Text.Denotes ("apple" ++ rest).toList value := by
  rw [String.toList_append, Text.denotes_iff]
  rintro ⟨⟨-, digits⟩, -⟩
  exact absurd (digits 'a' (by simp [Text.splitSign])) (by decide)

theorem namesGeneration_iff {text : String} {value : Int} :
    NamesGeneration text value ↔
      Text.Denotes (Text.dropStart "apple" (Text.lower (Text.trim text))).toList value := by
  constructor
  · rintro ⟨start, either, numeral, spelled, denotes⟩
    rw [spelled]
    rcases List.mem_pair.mp either with rfl | rfl
    · rw [String.empty_append, Text.dropStart]
      cases found : Text.after? "apple" numeral with
      | none => exact denotes
      | some rest =>
        rw [Text.after?_eq_some_iff.mp found] at denotes
        exact absurd denotes (not_denotes_apple rest value)
    · rwa [Text.dropStart_append]
  · intro denotes
    rw [Text.dropStart] at denotes
    cases found : Text.after? "apple" (Text.lower (Text.trim text)) with
    | none =>
      rw [found] at denotes
      exact ⟨"", by simp, _, (String.empty_append).symm, denotes⟩
    | some rest =>
      rw [found] at denotes
      exact ⟨"apple", by simp, rest, Text.after?_eq_some_iff.mp found, denotes⟩

/-- A text names at most one number. -/
theorem NamesGeneration.unique {text : String} {first second : Int} (one : NamesGeneration text first)
    (other : NamesGeneration text second) : first = second :=
  (namesGeneration_iff.mp one).unique (namesGeneration_iff.mp other)

namespace Family

/-- The code of a number is its residue. -/
theorem eq_ofInt_iff {family : Family} {value : Int} :
    family = ⟨UInt8.ofInt value⟩ ↔ (family.code.toNat : Int) = value % 256 := by
  have residue : ((UInt8.ofInt value).toNat : Int) = value % 256 := by
    rw [UInt8.ofInt, UInt8.toNat_ofNat']
    omega
  rw [← residue, Nat.cast_inj, UInt8.toNat_inj]
  exact ⟨fun same => by rw [same], fun same => congrArg mk same⟩

theorem isValid_iff {family : Family} : family.isValid = true ↔ 7 ≤ family.code.toNat ∧ family.code.toNat ≤ 9 := by
  rw [isValid, Bool.and_eq_true, decide_eq_true_eq, decide_eq_true_eq, UInt8.le_iff_toNat_le, UInt8.le_iff_toNat_le]
  rfl

/-- What is read is the generation that the number is after its reduction. -/
theorem parse_eq_ok_iff {text : String} {family : Family} :
    parse text = .ok family ↔ ∃ value : Int, NamesGeneration text value ∧ (-2 ^ 63 ≤ value ∧ value < 2 ^ 63) ∧
      family.isValid = true ∧ (family.code.toNat : Int) = value % 256 := by
  simp only [namesGeneration_iff, ← eq_ofInt_iff]
  unfold parse
  generalize Text.dropStart "apple" (Text.lower (Text.trim text)) = number
  dsimp only
  constructor
  · intro parsed
    split at parsed
    · rename_i value read
      obtain ⟨denotes, within⟩ := Text.readSigned_eq_ok_iff.mp read
      split at parsed
      · rename_i valid
        cases parsed
        exact ⟨value, denotes, within, valid, rfl⟩
      · cases parsed
    · cases parsed
  · rintro ⟨value, denotes, within, valid, residue⟩
    rw [residue] at valid ⊢
    simp only [Text.readSigned_eq_ok_iff.mpr ⟨denotes, within⟩, valid, if_true]

theorem parse_error {text : String} {defect : DeviceDefect} (refused : parse text = .error defect) :
    defect.failure.kind = .unsupportedDevice := by
  unfold parse at refused
  generalize Text.dropStart "apple" (Text.lower (Text.trim text)) = number at refused
  dsimp only at refused
  split at refused
  · split at refused
    · cases refused
    · cases refused
      rfl
  · cases refused
    rfl

/-- The generations are told apart by a number that the reduction leaves alone. -/
theorem parse_eq_ok_iff_of_names {text : String} {value : Int} (names : NamesGeneration text value)
    (least : -247 < value) (greatest : value < 263) (family : Family) :
    parse text = .ok family ↔ (value = 7 ∨ value = 8 ∨ value = 9) ∧ (family.code.toNat : Int) = value := by
  rw [parse_eq_ok_iff]
  constructor
  · rintro ⟨other, also, -, valid, residue⟩
    obtain rfl := names.unique also
    rw [isValid_iff] at valid
    omega
  · rintro ⟨supported, code⟩
    refine ⟨value, names, by omega, isValid_iff.mpr (by omega), by omega⟩

end Family

namespace Device

variable {text : String}

/-- A setting stands for the device of the generation that it names. -/
theorem detect_eq_ok_iff (given : text ≠ "") {device : Device} :
    detect (some text) = .ok device ↔
      ∃ family, Family.parse text = .ok family ∧ device = { name := text, family := family } := by
  rw [detect, Option.getD_some, if_neg given]
  constructor
  · intro detected
    split at detected
    · rename_i family parsed
      cases detected
      exact ⟨family, parsed, rfl⟩
    · cases detected
  · rintro ⟨family, parsed, rfl⟩
    rw [parsed]

theorem detect_error {setting : Option String} {failure : Failure} (refused : detect setting = .error failure) :
    failure.kind = .unsupportedDevice := by
  unfold detect at refused
  dsimp only at refused
  split at refused
  · cases refused
    rfl
  · split at refused
    · cases refused
    · rename_i defect parsed
      cases refused
      rw [Failure.kind_within]
      exact Family.parse_error parsed

/-- The texts that are read as a supported generation, and as which: those of a number that fits 64 bits and whose
    residue modulo 256 is supported. Of the numbers around the supported ones, which the reduction leaves alone or moves
    to unsupported ones, these are 7, 8 and 9. All other texts are refused as unsupported, and a setting that is not
    empty is judged as the text is. -/
theorem parse_detect_generation (text : String) :
    (∀ family, Family.parse text = .ok family ↔
      ∃ value : Int, NamesGeneration text value ∧ (-2 ^ 63 ≤ value ∧ value < 2 ^ 63) ∧
        family.isValid = true ∧ (family.code.toNat : Int) = value % 256) ∧
    (∀ value : Int, NamesGeneration text value → -247 < value → value < 263 → ∀ family,
      Family.parse text = .ok family ↔
        (value = 7 ∨ value = 8 ∨ value = 9) ∧ (family.code.toNat : Int) = value) ∧
    (∀ defect, Family.parse text = .error defect → defect.failure.kind = .unsupportedDevice) ∧
    (text ≠ "" →
      (∀ device, detect (some text) = .ok device ↔
        ∃ family, Family.parse text = .ok family ∧ device = { name := text, family := family }) ∧
      ∀ failure, detect (some text) = .error failure → failure.kind = .unsupportedDevice) :=
  ⟨fun _ => Family.parse_eq_ok_iff, fun _ => Family.parse_eq_ok_iff_of_names, fun _ => Family.parse_error,
    fun given => ⟨fun _ => detect_eq_ok_iff given, fun _ => detect_error⟩⟩

/-- A numeral with a sign and a leading zero, behind the word and between blanks. -/
theorem parse_detect_generation_signed :
    NamesGeneration " Apple+08 " 8 ∧ Family.parse " Apple+08 " = .ok .apple8 ∧
      detect (some " Apple+08 ") = .ok { name := " Apple+08 ", family := .apple8 } := by
  have names : NamesGeneration " Apple+08 " 8 :=
    ⟨"apple", by simp, "+08", by decide +kernel, by decide +kernel⟩
  obtain ⟨-, supported, -, detects⟩ := parse_detect_generation " Apple+08 "
  have parsed := (supported 8 names (by decide) (by decide) .apple8).mpr (by decide)
  exact ⟨names, parsed, ((detects (by decide)).1 _).mpr ⟨.apple8, parsed, rfl⟩⟩

/-- The numeral of 263 names the oldest supported generation, to whose number it is reduced. -/
theorem parse_wraps :
    (∀ value, NamesGeneration "263" value → value = 263) ∧ Family.parse "263" = .ok .apple7 ∧
      detect (some "263") = .ok { name := "263", family := .apple7 } := by
  have names : NamesGeneration "263" 263 := ⟨"", by simp, "263", by decide +kernel, by decide +kernel⟩
  have parsed : Family.parse "263" = .ok .apple7 :=
    Family.parse_eq_ok_iff.mpr ⟨263, names, by decide, by decide, by decide⟩
  exact ⟨fun _ also => also.unique names, parsed, (detect_eq_ok_iff (by decide)).mpr ⟨.apple7, parsed, rfl⟩⟩

end Device

end KernelForge
