import DocQuery.Names.Normalize

/-!
# Identifiers

`normalize` makes an identifier of every name, whatever characters it holds, and leaves
exactly the identifiers as they are. An identifier with more letters, digits or underscores
behind it is one again.
-/

namespace DocQuery.Names

/-- Letters, digits and underscores, in any number and order. -/
def IsWord (text : String) : Prop := ∀ c ∈ text.toList, isIdentifierChar c = true

instance : DecidablePred IsWord := fun text =>
  decidable_of_iff (text.toList.all isIdentifierChar = true) List.all_eq_true

instance : DecidablePred IsIdentifierChars
  | [] => isFalse id
  | c :: rest =>
    decidable_of_iff ((!c.isDigit && (c :: rest).all isIdentifierChar) = true)
      (by rw [Bool.and_eq_true, Bool.not_eq_true', List.all_eq_true]; rfl)

instance : DecidablePred IsIdentifier := fun text =>
  inferInstanceAs (Decidable (IsIdentifierChars text.toList))

theorem IsWord.append {text more : String} (word : IsWord text) (moreWord : IsWord more) :
    IsWord (text ++ more) := by
  intro c member
  rw [String.toList_append, List.mem_append] at member
  exact member.elim (word c) (moreWord c)

/-- Identifiers are words. -/
theorem IsIdentifier.isWord {text : String} (identifier : IsIdentifier text) : IsWord text := by
  unfold IsIdentifier at identifier
  intro c member
  cases chars : text.toList with
  | nil => simp [chars] at member
  | cons head rest =>
      rw [chars] at identifier member
      exact identifier.2 c member

/-- An identifier may be continued by a word. -/
theorem IsIdentifier.append {text more : String} (identifier : IsIdentifier text)
    (word : IsWord more) : IsIdentifier (text ++ more) := by
  have whole := identifier.isWord.append word
  unfold IsIdentifier IsWord at *
  rw [String.toList_append] at whole ⊢
  cases chars : text.toList with
  | nil => simp [chars, IsIdentifierChars] at identifier
  | cons head rest =>
      rw [chars] at identifier whole
      exact ⟨identifier.1, whole⟩

/-- Replacing leaves no foreign character. -/
theorem isIdentifierChar_replaceForeign (c : Char) :
    isIdentifierChar (replaceForeign c) = true := by
  unfold replaceForeign
  split
  · assumption
  · decide

/-- Guarding the start makes an identifier of a word. -/
theorem isIdentifierChars_guardStart {chars : List Char}
    (word : ∀ c ∈ chars, isIdentifierChar c = true) : IsIdentifierChars (guardStart chars) := by
  cases chars with
  | nil => decide
  | cons head rest =>
      rw [guardStart]
      split
      · refine ⟨by decide, ?_⟩
        intro c member
        rcases List.mem_cons.mp member with rfl | old
        · decide
        · exact word c old
      · rename_i noDigit
        exact ⟨Bool.eq_false_iff.mpr noDigit, word⟩

/-- Every name is normalized to an identifier. -/
theorem isIdentifier_normalize (name : String) : IsIdentifier (normalize name) := by
  unfold IsIdentifier normalize
  rw [String.toList_ofList]
  apply isIdentifierChars_guardStart
  intro c member
  obtain ⟨original, _, rfl⟩ := List.mem_map.mp member
  exact isIdentifierChar_replaceForeign original

/-- Characters that are stripped have no place in an identifier. -/
theorem isStripped_of_isIdentifierChar {c : Char} (kept : isIdentifierChar c = true) :
    isStripped c = false := by
  rw [Bool.eq_false_iff]
  intro stripped
  simp only [isStripped, Bool.or_eq_true, beq_iff_eq] at stripped
  rcases stripped with (((((rfl | rfl) | rfl) | rfl) | rfl) | rfl) | rfl <;> cases kept

/-- No identifier starts with a sign. -/
theorem spellSign_of_isIdentifierChars {chars : List Char} (identifier : IsIdentifierChars chars) :
    spellSign chars = chars := by
  cases chars with
  | nil => rfl
  | cons head rest =>
      have letter := identifier.2 head List.mem_cons_self
      unfold spellSign
      split
      · rename_i same
        cases same
        cases letter
      · rename_i same
        cases same
        cases letter
      · rfl

/-- Identifiers are normalized to themselves. -/
theorem normalizeChars_of_isIdentifierChars {chars : List Char}
    (identifier : IsIdentifierChars chars) : normalizeChars chars = chars := by
  cases chars with
  | nil => cases identifier
  | cons head rest =>
      have unsigned := spellSign_of_isIdentifierChars identifier
      obtain ⟨noDigit, word⟩ := identifier
      have unstripped : (head :: rest).filter (fun c => !isStripped c) = head :: rest := by
        rw [List.filter_eq_self]
        intro c member
        rw [isStripped_of_isIdentifierChar (word c member)]
        rfl
      have replaced : (head :: rest).map replaceForeign = head :: rest := by
        refine (List.map_congr_left ?_).trans (List.map_id _)
        intro c member
        exact if_pos (word c member)
      rw [normalizeChars, unstripped, unsigned, replaced, guardStart, noDigit]
      rfl

/-- Exactly the identifiers are normalized to themselves. -/
theorem normalize_eq_self_iff {name : String} : normalize name = name ↔ IsIdentifier name := by
  constructor
  · intro same
    rw [← same]
    exact isIdentifier_normalize name
  · intro identifier
    rw [normalize, normalizeChars_of_isIdentifierChars identifier, String.ofList_toList]

end DocQuery.Names
