import LayerAtlas.Proofs.NormalForm
import Mathlib

namespace LayerAtlas

namespace Text

variable {s t : String}

theorem toLower_eq_iff_of_not_isAlpha {c d : Char} (hd : d.isAlpha = false) :
    c.toLower = d ↔ c = d := by
  by_cases hupper : c.isUpper = true
  · have halpha : c.isAlpha = true := by rw [Char.isAlpha, hupper, Bool.true_or]
    apply iff_of_false
    · rintro rfl
      rw [c.isAlpha_toLower_eq_isAlpha, halpha] at hd
      cases hd
    · rintro rfl
      rw [halpha] at hd
      cases hd
  · rw [Char.toLower_eq_of_not_isUpper hupper]

theorem lower_upper (s : String) : lower (upper s) = lower s := by
  apply String.toList_injective
  rw [lower, upper, lower, String.toList_map, String.toList_map,
    String.toList_map, List.map_map]
  exact List.map_congr_left fun c _ => c.toLower_toUpper_eq_toLower

theorem upper_lower (s : String) : upper (lower s) = upper s := by
  apply String.toList_injective
  rw [upper, lower, upper, String.toList_map, String.toList_map,
    String.toList_map, List.map_map]
  exact List.map_congr_left fun c _ => c.toUpper_toLower_eq_toUpper

theorem upper_upper (s : String) : upper (upper s) = upper s := by
  rw [← upper_lower, lower_upper, upper_lower]

theorem sameLetters_iff : sameLetters s t = true ↔ lower s = lower t := decide_eq_true_iff

theorem sameLetters_iff_upper_eq : sameLetters s t = true ↔ upper s = upper t := by
  rw [sameLetters_iff]
  apply Iff.intro
  · intro h
    rw [← upper_lower s, h, upper_lower]
  · intro h
    rw [← lower_upper s, h, lower_upper]

theorem sameLetters_refl (s : String) : sameLetters s s = true := sameLetters_iff.2 rfl

theorem sameLetters_symm (h : sameLetters s t = true) : sameLetters t s = true :=
  sameLetters_iff.2 (sameLetters_iff.1 h).symm

theorem sameLetters_lower (s : String) : sameLetters s (lower s) = true :=
  sameLetters_iff_upper_eq.2 (upper_lower s).symm

theorem upper_eq_empty_iff : upper s = "" ↔ s = "" := by
  rw [← String.toList_inj, ← String.toList_inj, upper, String.toList_map]
  exact List.map_eq_nil_iff

theorem upper_trim (s : String) : upper (trim s) = trim (upper s) := by
  apply String.toList_injective
  rw [upper, trim, trim, upper, String.toList_map, String.toList_ofList, String.toList_ofList,
    String.toList_map, trimChars_map isBlank_toUpper]

theorem trim_ne_empty_of_sameLetters (h : sameLetters s t = true) (hs : trim s ≠ "") :
    trim t ≠ "" := by
  rw [Ne, ← upper_eq_empty_iff, upper_trim] at hs ⊢
  rwa [← sameLetters_iff_upper_eq.1 h]

end Text

open Text in
theorem normalCrs_congr {crs crs' : String} (h : sameLetters crs crs' = true) :
    normalCrs crs = normalCrs crs' := by
  rw [normalCrs, normalCrs, upper_trim, upper_trim, sameLetters_iff_upper_eq.1 h]

end LayerAtlas
