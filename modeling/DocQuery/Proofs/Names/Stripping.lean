import DocQuery.Proofs.Names.Identifiers

/-!
# Characters that make no difference

Stripping comes first when a name is normalized. So characters that are stripped make no
difference wherever they stand, also in front of a sign or a digit that is leading only
without them. What comes out is an identifier, and exactly identifiers are left as they are.
-/

namespace DocQuery.Names

/-- The second name is the first one with characters put in that are stripped, anywhere and
in any number. -/
inductive Sprinkled : List Char → List Char → Prop
  | nil : Sprinkled [] []
  | keep (c : Char) {chars more : List Char} (rest : Sprinkled chars more) :
      Sprinkled (c :: chars) (c :: more)
  | add {c : Char} {chars more : List Char} (listed : c ∈ ['[', '(', ')', '?', '@', '#', ']'])
      (rest : Sprinkled chars more) : Sprinkled chars (c :: more)

/-- Stripping takes away what was put in. -/
theorem Sprinkled.filter_eq {chars more : List Char} (sprinkled : Sprinkled chars more) :
    more.filter (fun c => !isStripped c) = chars.filter fun c => !isStripped c := by
  induction sprinkled with
  | nil => rfl
  | keep c _ ih => rw [List.filter_cons, List.filter_cons, ih]
  | @add c _ _ listed _ ih =>
      have stripped : isStripped c = true := by
        simp only [List.mem_cons, List.not_mem_nil, or_false] at listed
        rcases listed with rfl | rfl | rfl | rfl | rfl | rfl | rfl <;> rfl
      rw [List.filter_cons_of_neg (by simp [stripped]), ih]

/-- Every name is normalized to an identifier, and is left as it is exactly if it is one, so
normalizing twice is normalizing once. Putting in or taking out characters that are stripped
changes nothing. -/
theorem normalize_leaves_identifiers (name : String) :
    IsIdentifier (normalize name) ∧ (normalize name = name ↔ IsIdentifier name) ∧
      normalize (normalize name) = normalize name ∧
      ∀ more : String, Sprinkled name.toList more.toList → normalize more = normalize name := by
  refine ⟨isIdentifier_normalize name, normalize_eq_self_iff,
    normalize_eq_self_iff.mpr (isIdentifier_normalize name), ?_⟩
  intro more sprinkled
  rw [normalize, normalize, normalizeChars, normalizeChars, sprinkled.filter_eq]

/-- The sign and the digit behind the brackets are leading once these are stripped. -/
theorem normalize_leaves_identifier_of_bracketed_number :
    Sprinkled "-9é".toList "[-(9)#é]".toList ∧ normalize "[-(9)#é]" = normalize "-9é" ∧
      normalize "-9é" = "minus_9_" ∧ IsIdentifier "minus_9_" ∧
      normalize "minus_9_" = "minus_9_" := by
  have sprinkled : Sprinkled "-9é".toList "[-(9)#é]".toList :=
    .add (by decide) (.keep '-' (.add (by decide) (.keep '9' (.add (by decide)
      (.add (by decide) (.keep 'é' (.add (by decide) .nil)))))))
  obtain ⟨identifier, _, again, alike⟩ := normalize_leaves_identifiers "-9é"
  have made : normalize "-9é" = "minus_9_" := by decide
  rw [made] at identifier again
  exact ⟨sprinkled, alike _ sprinkled, made, identifier, again⟩

end DocQuery.Names
