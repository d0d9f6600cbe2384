import DocQuery.Proofs.Calendar.ReadInstants

/-!
# Instants that are read again

An instant that has been read is written as a date, a time of day and a `Z`. The first form
reads this text back part by part, if the year has four digits (`readWithOffset?_chars`). A
year with a sign is no year of the first form, and what the other forms read ends in a digit,
which a `Z` is not (`readChars?_concat`). So an instant is read back from its text if its year
lies between 0 and 9999, and in other years its text is no date:
`written_instants_are_read_again`.
-/

namespace DocQuery

namespace Instant

/-! ## What is written is read -/

/-- A number is read from as many digits as it is written in. -/
theorem readExactly_append {width number : Nat} {digits : List Char}
    (written : Text.Writes width number digits) (rest : List Char) :
    readExactly width (digits ++ rest) = some (number, rest) := by
  have taken : (digits ++ rest).take width = digits := by
    rw [← written.length, List.take_left]
  have dropped : (digits ++ rest).drop width = rest := by
    rw [← written.length, List.drop_left]
  have isDigit : digits.all Char.isDigit = true := List.all_eq_true.mpr written.isDigit
  simp [readExactly, taken, dropped, isDigit, written.length, written.value]

/-- A number of two digits is read from its text. -/
theorem readExactly_pairText {n : Nat} (fits : n < 100) (rest : List Char) :
    readExactly 2 (pairText n ++ rest) = some (n, rest) :=
  readExactly_append (Text.writes_paddedDigits (by decide) fits) rest

@[simp] theorem expect_cons (c : Char) (rest : List Char) : expect c (c :: rest) = some rest :=
  if_pos rfl

/-- Digits of a fraction come to their number, with zeros behind up to nine digits. -/
theorem fractionValue_of_writes {width number : Nat} {digits : List Char}
    (written : Text.Writes width number digits) (short : width ≤ 9) :
    fractionValue digits = number * 10 ^ (9 - width) := by
  have whole : digits.take 9 = digits := List.take_of_length_le (by rw [written.length]; exact short)
  rw [fractionValue, whole, written.value, written.length]
  rfl

/-- A fraction is read up to the first character that is no digit. -/
theorem readFraction_append {width number : Nat} {digits : List Char}
    (written : Text.Writes width number digits) (inhabited : 0 < width) (short : width ≤ 9)
    {mark : Char} (ends : mark.isDigit = false) (rest : List Char) :
    readFraction ('.' :: digits ++ mark :: rest) =
      some (number * 10 ^ (9 - width), mark :: rest) := by
  have taken : (digits ++ mark :: rest).takeWhile Char.isDigit = digits := by
    rw [List.takeWhile_append_of_pos written.isDigit, List.takeWhile_cons_of_neg (by simp [ends]),
      List.append_nil]
  have present : digits.isEmpty = false := by
    rw [List.isEmpty_eq_false_iff, ← List.length_pos_iff, written.length]
    exact inhabited
  rw [List.cons_append, readFraction]
  simp [taken, present, fractionValue_of_writes written short]

/-- The fraction of a second is read from its text, which ends where another character
follows. -/
theorem readFraction_fractionText {nanoseconds : Nat} (fraction : nanoseconds < 1_000_000_000)
    {mark : Char} (ends : mark.isDigit = false) (noPoint : mark ≠ '.') (rest : List Char) :
    readFraction (fractionText nanoseconds ++ mark :: rest) = some (nanoseconds, mark :: rest) := by
  have groups : ∀ width number, 0 < width → width ≤ 9 → number < 10 ^ width →
      number * 10 ^ (9 - width) = nanoseconds →
        readFraction ('.' :: Text.paddedDigits width number ++ mark :: rest) =
          some (nanoseconds, mark :: rest) := by
    intro width number inhabited short fits same
    have written := Text.writes_paddedDigits inhabited fits
    rw [readFraction_append written inhabited short ends, same]
  rw [fractionText]
  split
  · rename_i none
    rw [none, List.nil_append, readFraction]
    rintro later same
    exact noPoint (List.cons.inj same).1
  · split
    · exact groups 3 _ (by omega) (by omega) (by omega) (by omega)
    · split
      · exact groups 6 _ (by omega) (by omega) (by omega) (by omega)
      · exact groups 9 _ (by omega) (by omega) (by omega) (by omega)

/-- A date with a year of four digits is read from its text. -/
theorem readDate_dateText {date : Date} (real : date.exists? = true)
    (year : 0 ≤ date.year ∧ date.year ≤ 9999) (rest : List Char) :
    fixedForm.readDate (dateText date ++ rest) = some (date, rest) := by
  obtain ⟨months, days⟩ := Date.month_le_of_exists? real
  have yearRead : ∀ rest, readExactly 4 (yearText date.year ++ rest) =
      some (date.year.toNat, rest) := by
    intro rest
    rw [yearText, if_pos year]
    exact readExactly_append (Text.writes_paddedDigits (by decide) (by omega)) rest
  have whole : Int.ofNat date.year.toNat = date.year := Int.toNat_of_nonneg year.1
  simp only [Form.readDate, fixedForm, dateText, List.append_assoc, List.cons_append, yearRead,
    Option.map_some, Option.bind_eq_bind, Option.bind_some, expect_cons, whole,
    readExactly_pairText (Nat.lt_of_le_of_lt months (by decide : 12 < 100)),
    readExactly_pairText (Nat.lt_of_le_of_lt days (by decide : 31 < 100))]

/-- A time of day is read from its text, which ends where another character follows. -/
theorem readTime_timeText {time : TimeOfDay} (real : time.exists? = true)
    (fraction : time.nanosecond < 1_000_000_000) {mark : Char} (ends : mark.isDigit = false)
    (noPoint : mark ≠ '.') (rest : List Char) :
    fixedForm.readTime (timeText time ++ mark :: rest) = some (time, mark :: rest) := by
  simp only [TimeOfDay.exists?, Bool.and_eq_true, decide_eq_true_eq] at real
  simp only [Form.readTime, fixedForm, timeText, List.append_assoc, List.cons_append,
    Option.bind_eq_bind, Option.bind_some, expect_cons,
    readExactly_pairText (show time.hour < 100 by omega),
    readExactly_pairText (show time.minute < 100 by omega),
    readExactly_pairText (show time.second < 100 by omega),
    readFraction_fractionText fraction ends noPoint]

/-- A regular instant is that of its date and its time of day in universal time. -/
theorem ofLocal?_date_timeOfDay {instant : Instant} (regular : instant.Regular) :
    ofLocal? instant.date instant.timeOfDay 0 = some instant := by
  have day : instant.date.exists? = true := Date.exists?_ofNumber _
  have time := (exists?_timeOfDay regular.bounded).1
  have number : instant.date.number = instant.seconds / 86400 := Date.number_ofNumber _
  have bounded : instant.nanoseconds < 2_000_000_000 := regular.bounded
  have leap := regular.leap
  have hour : instant.timeOfDay.hour = (instant.seconds % 86400).toNat / 3600 := rfl
  have minute : instant.timeOfDay.minute = (instant.seconds % 86400).toNat / 60 % 60 := rfl
  have second : instant.timeOfDay.second =
      (instant.seconds % 86400).toNat % 60 + instant.nanoseconds / 1_000_000_000 := rfl
  have nanosecond : instant.timeOfDay.nanosecond = instant.nanoseconds % 1_000_000_000 := rfl
  -- A leap second counts as the second before it, and its fraction has the second back.
  have seconds : instant.date.number * daySeconds + instant.timeOfDay.seconds - 0 =
      instant.seconds := by
    rw [TimeOfDay.seconds, number, daySeconds, hour, minute, second]
    omega
  have nanoseconds : instant.timeOfDay.nanoseconds = instant.nanoseconds := by
    rw [TimeOfDay.nanoseconds, second, nanosecond]
    split <;> omega
  have within := regular.inRange
  simp only [ofLocal?, day, time, Bool.and_self, if_true, seconds, nanoseconds, within]

/-- In a year of four digits the text of a regular instant is read in the first form. -/
theorem readWithOffset?_chars {instant : Instant} (regular : instant.Regular)
    (year : 0 ≤ instant.date.year ∧ instant.date.year ≤ 9999) :
    readWithOffset? instant.chars = some instant := by
  obtain ⟨time, fraction⟩ := exists?_timeOfDay regular.bounded
  have dateRead := readDate_dateText (Date.exists?_ofNumber instant.dayNumber) year
  have timeRead := readTime_timeText time fraction (by decide : 'Z'.isDigit = false) (by decide) []
  have separated : ∀ rest, readSeparator ('T' :: rest) = some rest := fun _ => rfl
  have universal : readOffset ['Z'] = some (0, []) := rfl
  simp only [readWithOffset?, chars, List.append_assoc, List.cons_append]
  simp only [date] at dateRead ⊢
  simp only [dateRead, separated, timeRead, universal, Option.bind_eq_bind, Option.bind_some,
    List.isEmpty_nil, if_true]
  exact ofLocal?_date_timeOfDay regular

/-! ## What ends in a letter is read in the first form only -/

/-- What is read in front of the rest ends in a digit. -/
def EndsInDigit (chars rest : List Char) : Prop :=
  ∃ digit : Char, digit.isDigit = true ∧ digit :: rest <:+ chars

/-- The rest stands at the end. -/
theorem EndsInDigit.suffix {chars rest : List Char} (ends : EndsInDigit chars rest) :
    rest <:+ chars := by
  obtain ⟨digit, _, suffix⟩ := ends
  exact (List.suffix_cons digit rest).trans suffix

/-- It does not matter what is read before. -/
theorem EndsInDigit.trans {chars middle rest : List Char} (ends : EndsInDigit middle rest)
    (suffix : middle <:+ chars) : EndsInDigit chars rest := by
  obtain ⟨digit, isDigit, later⟩ := ends
  exact ⟨digit, isDigit, later.trans suffix⟩

/-- Digits that are there end in a digit. -/
theorem endsInDigit_of_digits {digits : List Char} (isDigit : ∀ c ∈ digits, c.isDigit = true)
    (inhabited : digits ≠ []) (rest : List Char) : EndsInDigit (digits ++ rest) rest := by
  obtain ⟨front, last, rfl⟩ := (List.eq_nil_or_concat digits).resolve_left inhabited
  refine ⟨last, isDigit last (by simp), front, ?_⟩
  rw [List.concat_eq_append, List.append_assoc, List.singleton_append]

variable {chars rest : List Char}

/-- A given character stands in front of the rest. -/
theorem suffix_of_expect {c : Char} (read : expect c chars = some rest) : rest <:+ chars := by
  cases chars with
  | nil => cases read
  | cons head later =>
      rw [expect] at read
      split at read
      · rw [← Option.some.inj read]
        exact List.suffix_cons head later
      · cases read

/-- A number ends in a digit. -/
theorem endsInDigit_of_readUpTo {most n : Nat} (read : readUpTo most chars = some (n, rest)) :
    EndsInDigit chars rest := by
  rw [readUpTo] at read
  split at read
  · cases read
  · rename_i present
    simp only [Option.some.injEq, Prod.mk.injEq] at read
    have start : (chars.take most).takeWhile Char.isDigit <+: chars :=
      (List.takeWhile_prefix _).trans (List.take_prefix most chars)
    have whole := List.prefix_iff_eq_append.mp start
    rw [read.2] at whole
    rw [← whole]
    exact endsInDigit_of_digits (List.all_eq_true.mp List.all_takeWhile)
      (fun none => present (List.isEmpty_iff.mpr none)) rest

/-- A number ends in a digit, also behind white space. -/
theorem endsInDigit_of_pair {n : Nat} (read : laxForm.pair chars = some (n, rest)) :
    EndsInDigit chars rest :=
  (endsInDigit_of_readUpTo read).trans (List.dropWhile_suffix _)

/-- A year ends in a digit, also behind white space and a sign. -/
theorem endsInDigit_of_readLaxYear {year : Int} (read : readLaxYear chars = some (year, rest)) :
    EndsInDigit chars rest := by
  have blank : Text.trimStart chars <:+ chars := List.dropWhile_suffix _
  rw [readLaxYear] at read
  split at read
  · rename_i later signed
    obtain ⟨⟨n, _⟩, digits, same⟩ := Option.map_eq_some_iff.mp read
    rw [← (Prod.mk.inj same).2]
    rw [signed] at blank
    exact (endsInDigit_of_readUpTo digits).trans ((List.suffix_cons _ _).trans blank)
  · rename_i later signed
    obtain ⟨⟨n, _⟩, digits, same⟩ := Option.map_eq_some_iff.mp read
    rw [← (Prod.mk.inj same).2]
    rw [signed] at blank
    exact (endsInDigit_of_readUpTo digits).trans ((List.suffix_cons _ _).trans blank)
  · obtain ⟨⟨n, _⟩, digits, same⟩ := Option.map_eq_some_iff.mp read
    rw [← (Prod.mk.inj same).2]
    exact (endsInDigit_of_readUpTo digits).trans blank

/-- A fraction ends in a digit, if there is one. -/
theorem endsInDigit_of_readFraction {n : Nat} (read : readFraction chars = some (n, rest)) :
    chars = rest ∨ EndsInDigit chars rest := by
  rw [readFraction.eq_def] at read
  split at read
  · rename_i later
    dsimp only at read
    split at read
    · cases read
    · rename_i present
      simp only [Option.some.injEq, Prod.mk.injEq] at read
      have whole := List.prefix_iff_eq_append.mp (List.takeWhile_prefix (l := later) Char.isDigit)
      rw [read.2] at whole
      have digits : EndsInDigit later rest := by
        rw [← whole]
        exact endsInDigit_of_digits (List.all_eq_true.mp List.all_takeWhile)
          (fun none => present (List.isEmpty_iff.mpr none)) rest
      exact .inr (digits.trans (List.suffix_cons _ _))
  · simp only [Option.some.injEq, Prod.mk.injEq] at read
    exact .inl read.2

/-- A date ends in a digit. -/
theorem endsInDigit_of_readDate {date : Date} (read : laxForm.readDate chars = some (date, rest)) :
    EndsInDigit chars rest := by
  simp only [Form.readDate, Option.bind_eq_bind, Option.bind_eq_some_iff, Prod.exists] at read
  obtain ⟨_, _, year, _, hyphen, _, _, month, _, nextHyphen, _, _, day, made⟩ := read
  simp only [Option.some.injEq, Prod.mk.injEq] at made
  rw [← made.2]
  have yearEnds : EndsInDigit chars _ := endsInDigit_of_readLaxYear year
  exact (endsInDigit_of_pair day).trans <| (suffix_of_expect nextHyphen).trans <|
    (endsInDigit_of_pair month).suffix.trans <| (suffix_of_expect hyphen).trans yearEnds.suffix

/-- A time of day ends in a digit. -/
theorem endsInDigit_of_readTime {time : TimeOfDay}
    (read : laxForm.readTime chars = some (time, rest)) : EndsInDigit chars rest := by
  simp only [Form.readTime, Option.bind_eq_bind, Option.bind_eq_some_iff, Prod.exists] at read
  obtain ⟨_, _, hour, _, colon, _, _, minute, _, nextColon, _, _, second, _, _, fraction, made⟩ :=
    read
  simp only [Option.some.injEq, Prod.mk.injEq] at made
  rw [← made.2]
  have before := (suffix_of_expect nextColon).trans <| (endsInDigit_of_pair minute).suffix.trans <|
    (suffix_of_expect colon).trans (endsInDigit_of_pair hour).suffix
  have secondEnds := (endsInDigit_of_pair second).trans before
  rcases endsInDigit_of_readFraction fraction with same | fractionEnds
  · rw [← same]
    exact secondEnds
  · exact fractionEnds.trans secondEnds.suffix

/-- A whole number ends in a digit. -/
theorem endsInDigit_of_readSigned? {n : Int} (read : Text.readSigned? chars = some n) :
    EndsInDigit chars [] := by
  have digitsEnd : ∀ {digits : List Char} {n : Nat}, Text.readNat? digits = some n →
      EndsInDigit digits [] := by
    intro digits n digitsRead
    rw [Text.readNat?] at digitsRead
    split at digitsRead
    · cases digitsRead
    · rename_i valid
      simp only [Bool.or_eq_true, Bool.not_eq_true', not_or, Bool.not_eq_false] at valid
      have ends := endsInDigit_of_digits (List.all_eq_true.mp valid.2)
        (fun none => valid.1 (List.isEmpty_iff.mpr none)) []
      rwa [List.append_nil] at ends
  rw [Text.readSigned?.eq_def] at read
  split at read
  · obtain ⟨_, negated, _⟩ := Option.map_eq_some_iff.mp read
    obtain ⟨_, digits, _⟩ := Option.bind_eq_some_iff.mp negated
    exact (digitsEnd digits).trans (List.suffix_cons _ _)
  · obtain ⟨_, unsigned, _⟩ := Option.map_eq_some_iff.mp read
    rw [Text.readUnsigned?.eq_def] at unsigned
    split at unsigned
    · exact (digitsEnd unsigned).trans (List.suffix_cons _ _)
    · exact digitsEnd unsigned

/-- What ends in another character than a digit is read in the first form or not at all. -/
theorem readChars?_concat (front : List Char) {mark : Char} (noDigit : mark.isDigit = false) :
    readChars? (front ++ [mark]) = readWithOffset? (front ++ [mark]) := by
  have unended : ¬ EndsInDigit (front ++ [mark]) [] := by
    rintro ⟨digit, isDigit, before, same⟩
    have last := (List.append_inj' same rfl).2
    rw [(List.cons.inj last).1, noDigit] at isDigit
    cases isDigit
  have universal : readUniversal? (front ++ [mark]) = none := by
    rw [Option.eq_none_iff_forall_ne_some]
    intro instant read
    simp only [readUniversal?, Option.bind_eq_bind, Option.bind_eq_some_iff, Prod.exists] at read
    obtain ⟨_, _, date, _, separator, _, _, time, made⟩ := read
    rw [(whole_of_made made).1] at time
    exact unended ((endsInDigit_of_readTime time).trans <|
      (suffix_of_expect separator).trans (endsInDigit_of_readDate date).suffix)
  have dateOnly : readDateOnly? (front ++ [mark]) = none := by
    rw [Option.eq_none_iff_forall_ne_some]
    intro instant read
    simp only [readDateOnly?, Option.bind_eq_bind, Option.bind_eq_some_iff, Prod.exists] at read
    obtain ⟨_, _, date, made⟩ := read
    rw [(whole_of_made made).1] at date
    exact unended (endsInDigit_of_readDate date)
  have milliseconds : readMilliseconds? (front ++ [mark]) = none := by
    rw [Option.eq_none_iff_forall_ne_some]
    intro instant read
    simp only [readMilliseconds?, Option.bind_eq_bind, Option.bind_eq_some_iff] at read
    obtain ⟨_, number, _⟩ := read
    exact unended (endsInDigit_of_readSigned? number)
  rw [readChars?, universal, dateOnly, milliseconds]
  cases readWithOffset? (front ++ [mark]) <;> rfl

/-- A year with a sign is not read in the first form. -/
theorem readWithOffset?_signed {sign : Char} (noDigit : sign.isDigit = false)
    (rest : List Char) : readWithOffset? (sign :: rest) = none := by
  have year : readExactly 4 (sign :: rest) = none := by simp [readExactly, noDigit]
  simp [readWithOffset?, Form.readDate, fixedForm, year]

/-- An instant that has been read from a stored date is written as a text that is read as the
same instant, exactly if its year in universal time lies between 0 and 9999. In any other
year the text is not read as a date at all. -/
theorem written_instants_are_read_again {value : Json} {instant : Instant}
    (read : ofJson? value = some instant) :
    (ofJson? (.string instant.text) = some instant ↔
      0 ≤ instant.date.year ∧ instant.date.year ≤ 9999) ∧
    (¬ (0 ≤ instant.date.year ∧ instant.date.year ≤ 9999) →
      ofJson? (.string instant.text) = none) := by
  have regular := regular_of_ofJson? read
  have firstForm : ofJson? (.string instant.text) = readWithOffset? instant.chars := by
    rw [ofJson?, read?, text, String.toList_ofList, chars]
    exact readChars?_concat _ (by decide)
  have unreadable : ¬ (0 ≤ instant.date.year ∧ instant.date.year ≤ 9999) →
      ofJson? (.string instant.text) = none := by
    intro outside
    obtain ⟨sign, rest, signed, noDigit⟩ := exists_sign_of_yearText outside
    rw [firstForm, chars, dateText, signed]
    exact readWithOffset?_signed noDigit _
  refine ⟨⟨?_, ?_⟩, unreadable⟩
  · intro again
    by_contra outside
    rw [unreadable outside] at again
    cases again
  · intro year
    rw [firstForm]
    exact readWithOffset?_chars regular year

/-- A leap second in a place ahead of universal time is read again. The last second of the year
9999 in a place behind it belongs to a year with five digits and is not. -/
theorem leapSecond_is_read_again :
    ∃ leap late : Instant,
      ofJson? (.string "2016-12-31T23:59:60.5+05:30") = some leap ∧
        leap.text = "2016-12-31T18:29:60.500Z" ∧ ofJson? (.string leap.text) = some leap ∧
      ofJson? (.string "9999-12-31T23:59:59-01:00") = some late ∧
        late.text = "+10000-01-01T00:59:59Z" ∧ ofJson? (.string late.text) = none := by
  have leapRead : ofJson? (.string "2016-12-31T23:59:60.5+05:30") =
      some ⟨1483208999, 1_500_000_000⟩ := by decide +kernel
  have lateRead : ofJson? (.string "9999-12-31T23:59:59-01:00") =
      some ⟨253402304399, 0⟩ := by decide +kernel
  have leapAgain := (written_instants_are_read_again leapRead).1.mpr (by decide +kernel)
  have lateLost := (written_instants_are_read_again lateRead).2 (by decide +kernel)
  exact ⟨_, _, leapRead, by decide +kernel, leapAgain, lateRead, by decide +kernel, lateLost⟩

end Instant

end DocQuery
