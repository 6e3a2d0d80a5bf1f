import CatalogBrowser.Text.Fold

/-!
# The case of ASCII letters

Texts that differ in the case of ASCII letters only are folded to the same text. This takes the
letters one by one, but also their neighbourhood: whether a capital sigma is a final one depends on
the characters around it, and no ASCII letter is cased in one case only.

## Main statements

* `apply_toLower` - what twenty-six letters show about a function of characters.
* `lowercase_congr` - folding goes beyond the case of ASCII letters.
-/

namespace CatalogBrowser.Text

/-- A function that tells no capital ASCII letter from its small letter does so for no character. -/
theorem apply_toLower {β : Type} {f : Char → β}
    (h : ∀ n ∈ List.range' 65 26, f (Char.ofNat n).toLower = f (Char.ofNat n)) (c : Char) :
    f c.toLower = f c := by
  by_cases hupper : c.val ≥ 'A'.val ∧ c.val ≤ 'Z'.val
  · have hrange : c.toNat ∈ List.range' 65 26 := by
      rw [List.mem_range'_1]
      exact ⟨UInt32.le_iff_toNat_le.1 hupper.1,
        Nat.lt_succ_of_le (UInt32.le_iff_toNat_le.1 hupper.2)⟩
    have hletter := h c.toNat hrange
    rwa [Char.ofNat_toNat] at hletter
  · have hsame : c.toLower = c := dif_neg hupper
    rw [hsame]

theorem lowerChar_toLower (c : Char) : lowerChar c.toLower = lowerChar c :=
  apply_toLower (by decide +kernel) c

theorem contains_cased_toLower (c : Char) :
    casedRanges.contains c.toLower = casedRanges.contains c :=
  apply_toLower (by decide +kernel) c

theorem contains_caseIgnorable_toLower (c : Char) :
    caseIgnorableRanges.contains c.toLower = caseIgnorableRanges.contains c :=
  apply_toLower (by decide +kernel) c

theorem toLower_eq_sigma_iff (c : Char) : c.toLower = 'Σ' ↔ c = 'Σ' := by
  have h := apply_toLower (f := fun c => decide (c = 'Σ')) (by decide +kernel) c
  simpa using h

theorem startsCased_map_toLower (cs : List Char) :
    startsCased (cs.map Char.toLower) = startsCased cs := by
  induction cs with
  | nil => rfl
  | cons c rest ih =>
    rw [startsCased, startsCased] at ih ⊢
    rw [List.map_cons, List.dropWhile_cons, List.dropWhile_cons, contains_caseIgnorable_toLower]
    cases caseIgnorableRanges.contains c with
    | true => exact ih
    | false => exact contains_cased_toLower c

/-- The case of ASCII letters makes no difference, neither in a text nor before it. -/
theorem lowerChars_map_toLower (before cs : List Char) :
    lowerChars (before.map Char.toLower) (cs.map Char.toLower) = lowerChars before cs := by
  induction cs generalizing before with
  | nil => rfl
  | cons c after ih =>
    have hrest := ih (c :: before)
    rw [List.map_cons] at hrest
    simp only [List.map_cons, lowerChars, hrest, lowerSigma, startsCased_map_toLower,
      lowerChar_toLower, toLower_eq_sigma_iff]

theorem lowercase_toLower (s : String) : lowercase s.toLower = lowercase s := by
  have hlower : s.toLower.toList = s.toList.map Char.toLower := String.toList_map
  rw [lowercase, lowercase, hlower]
  exact congrArg String.ofList (lowerChars_map_toLower [] s.toList)

/-- Texts that are equal up to the case of ASCII letters are folded to the same text. -/
theorem lowercase_congr {a b : String} (h : a.toLower = b.toLower) : lowercase a = lowercase b := by
  rw [← lowercase_toLower a, h, lowercase_toLower]

/-- Other letters are folded as well, so texts that are folded to the same text may differ. -/
example : lowercase "Ä" = lowercase "ä" ∧ "Ä".toLower ≠ "ä".toLower := by decide +kernel

end CatalogBrowser.Text
