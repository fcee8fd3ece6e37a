import PackageIndex.Settings
import Mathlib

/-!
# What version texts are read as

A version text is two numbers with a point between them and any white space around them.  The
digits may be those of any scripts, also mixed, and zeros may come first.

`Unicode.Trims` says what is left of a text without the white space at its ends, and
`Unicode.Writes` which strings of digits write a number; both are said without the functions that
trim and that read numbers, and `trims_iff` and `writes_iff` tell that these do what is said.
`Version.HasForm` is the form of a version text.  Since no digit is a point or white space, a text
has it in one way at most, and `splitText` finds that way (`splitText_eq_some_iff`).

`versionOf_reads_numerals` says what comes of every text: a version if the numbers are three and at
least seven, and otherwise a failure that names the text as it was given, unless a number has more
digits than are read.
-/

namespace PackageIndex

namespace Unicode

variable {c : Char} {text core digits : List Char} {n k : ℕ}

/-! ## Digits -/

/-- A digit stands as many characters behind the zero of its script as it counts. -/
lemma exists_first_of_digitValue? (h : digitValue? c = some k) :
    ∃ first ∈ digitZeros, c.toNat = first + k ∧ k < 10 := by
  unfold digitValue? at h
  rw [Option.map_eq_some_iff] at h
  obtain ⟨first, hfind, hk⟩ := h
  have hmem : first ∈ digitZeros := List.mem_of_find?_eq_some hfind
  have hrange := List.find?_some hfind
  simp only [Bool.and_eq_true, decide_eq_true_eq] at hrange
  obtain ⟨hle, hlt⟩ := hrange
  refine ⟨first, hmem, ?_, ?_⟩
  · omega
  · omega

/-- A digit is a character that stands for a number. -/
lemma isDigit_iff : isDigit c = true ↔ ∃ k, digitValue? c = some k := by
  rw [isDigit, Option.isSome_iff_exists]

/-- No digit is white space. -/
lemma isBlank_of_isDigit (h : isDigit c = true) : isBlank c = false := by
  have htable : ∀ first ∈ digitZeros, ∀ k < 10, isBlank (Char.ofNat (first + k)) = false := by
    decide +kernel
  obtain ⟨k, hk⟩ := isDigit_iff.1 h
  obtain ⟨first, hfirst, heq, hlt⟩ := exists_first_of_digitValue? hk
  have hblank := htable first hfirst k hlt
  rwa [← heq, Char.ofNat_toNat] at hblank

/-- A point is no digit. -/
lemma isDigit_point : isDigit '.' = false := by
  decide

/-! ## Numbers -/

/-- A string of digits, with at least one digit. -/
structure IsNumeral (digits : List Char) : Prop where
  ne_nil : digits ≠ []
  isDigit : ∀ c ∈ digits, isDigit c = true

/-- Digits write a number to base ten, the greatest first.  They may be those of any scripts, and
zeros may come before them. -/
def Writes (digits : List Char) (n : ℕ) : Prop :=
  digits ≠ [] ∧ ∃ zeros, digits.map digitValue? =
    (List.replicate zeros 0 ++ (Nat.digits 10 n).reverse).map some

/-- The number that is read is the sum of the digits by their places. -/
lemma decimalValue_eq (digits : List Char) : decimalValue digits =
    Nat.ofDigits 10 (digits.map fun c => (digitValue? c).getD 0).reverse := by
  induction digits using List.reverseRecOn with
  | nil => rfl
  | append_singleton digits c ih =>
    have hstep : decimalValue (digits ++ [c]) =
        10 * decimalValue digits + (digitValue? c).getD 0 := by
      simp only [decimalValue, List.foldl_append, List.foldl_cons, List.foldl_nil]
    rw [hstep, ih, List.map_append, List.reverse_append, List.map_singleton,
      List.reverse_singleton, List.singleton_append, Nat.ofDigits_cons]
    omega

/-- Values of digits are those of the number that they write, behind some zeros. -/
lemma exists_zeros {values : List ℕ} (h : ∀ v ∈ values, v < 10) :
    ∃ zeros, values =
      List.replicate zeros 0 ++ (Nat.digits 10 (Nat.ofDigits 10 values.reverse)).reverse := by
  have hreverse : ∀ v ∈ values.reverse, v < 10 := fun v hv => h v (List.mem_reverse.1 hv)
  generalize hn : Nat.ofDigits 10 values.reverse = n
  have hlt : n < 10 ^ values.reverse.length := by
    rw [← hn]
    exact Nat.ofDigits_lt_base_pow_length (by omega) hreverse
  have hlen : (Nat.digits 10 n).length ≤ values.length := by
    rw [List.length_reverse] at hlt
    exact (Nat.digits_length_le_iff (by omega) n).2 hlt
  refine ⟨values.length - (Nat.digits 10 n).length, List.reverse_injective ?_⟩
  rw [List.reverse_append, List.reverse_reverse, List.reverse_replicate]
  -- lists of digits of the same length that write the same number are the same
  apply Nat.ofDigits_inj_of_len_eq (b := 10) (by omega)
  · rw [List.length_append, List.length_reverse, List.length_replicate]
    omega
  · exact hreverse
  · intro v hv
    rcases List.mem_append.1 hv with hv | hv
    · exact Nat.digits_lt_base (by omega) hv
    · rw [List.eq_of_mem_replicate hv]
      omega
  · rw [Nat.ofDigits_append_replicate_zero, Nat.ofDigits_digits, hn]

/-- What writes a number is a numeral. -/
lemma Writes.isNumeral (h : Writes digits n) : IsNumeral digits := by
  obtain ⟨hne, zeros, hzeros⟩ := h
  refine ⟨hne, fun c hc => ?_⟩
  have hmem : digitValue? c ∈ digits.map digitValue? := List.mem_map_of_mem hc
  rw [hzeros] at hmem
  obtain ⟨k, -, hk⟩ := List.mem_map.1 hmem
  exact isDigit_iff.2 ⟨k, hk.symm⟩

/-- The number that digits write is their value. -/
lemma Writes.decimalValue_eq (h : Writes digits n) : decimalValue digits = n := by
  obtain ⟨-, zeros, hzeros⟩ := h
  have hvalues : digits.map (fun c => (digitValue? c).getD 0) =
      List.replicate zeros 0 ++ (Nat.digits 10 n).reverse := by
    have hgetD := congrArg (List.map fun v => v.getD 0) hzeros
    simpa [Function.comp_def] using hgetD
  rw [Unicode.decimalValue_eq, hvalues, List.reverse_append, List.reverse_reverse,
    List.reverse_replicate, Nat.ofDigits_append_replicate_zero, Nat.ofDigits_digits]

/-- A numeral writes its value. -/
lemma IsNumeral.writes (h : IsNumeral digits) : Writes digits (decimalValue digits) := by
  have hvalue : ∀ c ∈ digits, digitValue? c = some ((digitValue? c).getD 0) := by
    intro c hc
    obtain ⟨k, hk⟩ := isDigit_iff.1 (h.isDigit c hc)
    rw [hk, Option.getD_some]
  have hlt : ∀ v ∈ digits.map (fun c => (digitValue? c).getD 0), v < 10 := by
    intro v hv
    obtain ⟨c, hc, rfl⟩ := List.mem_map.1 hv
    obtain ⟨-, -, -, hten⟩ := exists_first_of_digitValue? (hvalue c hc)
    exact hten
  obtain ⟨zeros, hzeros⟩ := exists_zeros hlt
  refine ⟨h.ne_nil, zeros, ?_⟩
  rw [decimalValue_eq, ← hzeros, List.map_map]
  exact List.map_congr_left hvalue

/-- A string of digits writes the number that it is read as, and no other. -/
theorem writes_iff : Writes digits n ↔ IsNumeral digits ∧ decimalValue digits = n := by
  refine ⟨fun h => ⟨h.isNumeral, h.decimalValue_eq⟩, ?_⟩
  rintro ⟨h, rfl⟩
  exact h.writes

/-! ## White space -/

/-- What is left of a text without the white space at its two ends. -/
structure Trims (text core : List Char) : Prop where
  eq_append : ∃ front back, text = front ++ core ++ back ∧ (∀ c ∈ front, isBlank c = true) ∧
    ∀ c ∈ back, isBlank c = true
  head : ∀ c ∈ core.head?, isBlank c = false
  last : ∀ c ∈ core.getLast?, isBlank c = false

/-- White space before a text that does not begin with any is dropped, and nothing else. -/
lemma dropWhile_isBlank_append {front : List Char} (hfront : ∀ c ∈ front, isBlank c = true)
    (hcore : ∀ c ∈ core.head?, isBlank c = false) : (front ++ core).dropWhile isBlank = core := by
  rw [List.dropWhile_append_of_pos hfront]
  cases core with
  | nil => rfl
  | cons c cs => exact List.dropWhile_cons_of_neg (by simp [hcore c rfl])

/-- What is left without the white space around it is found by trimming. -/
lemma Trims.trim_eq (h : Trims text core) : trim text = core := by
  obtain ⟨⟨front, back, rfl, hfront, hback⟩, hhead, hlast⟩ := h
  have hreverse : ∀ c ∈ back.reverse, isBlank c = true :=
    fun c hc => hback c (List.mem_reverse.1 hc)
  unfold trim
  cases core with
  | nil =>
    have hall : (front ++ [] ++ back).dropWhile isBlank = [] := by
      rw [List.append_nil, List.dropWhile_append_of_pos hfront]
      exact List.dropWhile_eq_nil_iff.2 hback
    rw [hall]
    rfl
  | cons c cs =>
    have hhead' : ∀ a ∈ (c :: cs ++ back).head?, isBlank a = false := hhead
    have hlast' : ∀ a ∈ (c :: cs).reverse.head?, isBlank a = false := by rwa [List.head?_reverse]
    rw [List.append_assoc, dropWhile_isBlank_append hfront hhead', List.reverse_append,
      dropWhile_isBlank_append hreverse hlast', List.reverse_reverse]

/-- Trimming takes away the white space on both sides and nothing else. -/
lemma trims_trim (text : List Char) : Trims text (trim text) := by
  have hdrop (l : List Char) : ∃ blanks, l = blanks ++ l.dropWhile isBlank ∧
      (∀ c ∈ blanks, isBlank c = true) ∧ ∀ c ∈ (l.dropWhile isBlank).head?, isBlank c = false := by
    refine ⟨l.takeWhile isBlank, List.takeWhile_append_dropWhile.symm,
      fun c hc => List.mem_takeWhile_imp hc, fun c hc => ?_⟩
    have hnot := List.head?_dropWhile_not isBlank l
    rw [Option.mem_def] at hc
    rwa [hc] at hnot
  obtain ⟨front, htext, hfront, hhead⟩ := hdrop text
  obtain ⟨back, hrest, hback, hlast⟩ := hdrop (text.dropWhile isBlank).reverse
  have hcore : text.dropWhile isBlank = trim text ++ back.reverse := by
    rw [← List.reverse_reverse (text.dropWhile isBlank), hrest, List.reverse_append]
    rfl
  refine ⟨⟨front, back.reverse, ?_, hfront, fun c hc => hback c (List.mem_reverse.1 hc)⟩, ?_, ?_⟩
  · rw [List.append_assoc, ← hcore]
    exact htext
  · intro c hc
    refine hhead c ?_
    rw [hcore, List.head?_append, hc]
    rfl
  · intro c hc
    refine hlast c ?_
    rwa [trim, List.getLast?_reverse] at hc

/-- A text is trimmed to what is left of it, and to nothing else. -/
theorem trims_iff : Trims text core ↔ trim text = core := by
  refine ⟨Trims.trim_eq, ?_⟩
  rintro rfl
  exact trims_trim text

end Unicode

/-! ## Two numbers and a point -/

namespace Version

open Unicode

variable {text : String} {cs major minor : List Char}

/-- Without the white space at its ends, a text is two strings of digits with a point between
them. -/
structure HasForm (text : String) (major minor : List Char) : Prop where
  major_isNumeral : IsNumeral major
  minor_isNumeral : IsNumeral minor
  trims : Trims text.toList (major ++ '.' :: minor)

/-- The two strings of digits are found if a text is made up of them and a point. -/
lemma splitText_eq_some_iff : splitText cs = some (major, minor) ↔
    cs = major ++ '.' :: minor ∧ IsNumeral major ∧ IsNumeral minor := by
  constructor
  · intro h
    unfold splitText at h
    split at h
    · rename_i rest hrest
      dsimp only at h
      split_ifs at h with hgood
      obtain ⟨rfl, rfl⟩ := Prod.mk.inj (Option.some.inj h)
      simp only [Bool.and_eq_true, Bool.not_eq_true', List.isEmpty_eq_false_iff,
        List.all_eq_true] at hgood
      obtain ⟨⟨hmajor, hminor⟩, hdigits⟩ := hgood
      refine ⟨?_, ⟨hmajor, fun c hc => List.mem_takeWhile_imp hc⟩, hminor, hdigits⟩
      rw [← hrest, List.takeWhile_append_dropWhile]
    · simp at h
  · rintro ⟨rfl, hmajor, hminor⟩
    have htake : (major ++ '.' :: minor).takeWhile isDigit = major := by
      rw [List.takeWhile_append_of_pos hmajor.isDigit, List.takeWhile_cons_of_neg, List.append_nil]
      simp [isDigit_point]
    have hdrop : (major ++ '.' :: minor).dropWhile isDigit = '.' :: minor := by
      rw [List.dropWhile_append_of_pos hmajor.isDigit, List.dropWhile_cons_of_neg]
      simp [isDigit_point]
    have hall : minor.all isDigit = true := List.all_eq_true.2 hminor.isDigit
    have hne : major.isEmpty = false := List.isEmpty_eq_false_iff.2 hmajor.ne_nil
    have hne' : minor.isEmpty = false := List.isEmpty_eq_false_iff.2 hminor.ne_nil
    unfold splitText
    rw [hdrop, htake]
    simp [hall, hne, hne']

/-- A text is split into two runs of digits, without the blanks around it, exactly if it has the
form of a version. -/
lemma splitText_trim_eq_some_iff :
    splitText (trim text.toList) = some (major, minor) ↔ HasForm text major minor := by
  rw [splitText_eq_some_iff, ← trims_iff]
  exact ⟨fun ⟨htrims, hmajor, hminor⟩ => ⟨hmajor, hminor, htrims⟩,
    fun h => ⟨h.trims, h.major_isNumeral, h.minor_isNumeral⟩⟩

/-- Digits are no white space, so that the form does not depend on how much of it is cut off. -/
lemma HasForm.of_append {front back : List Char} (hmajor : IsNumeral major)
    (hminor : IsNumeral minor) (htext : text.toList = front ++ (major ++ '.' :: minor) ++ back)
    (hfront : ∀ c ∈ front, isBlank c = true) (hback : ∀ c ∈ back, isBlank c = true) :
    HasForm text major minor := by
  refine ⟨hmajor, hminor, ⟨front, back, htext, hfront, hback⟩, ?_, ?_⟩
  · intro c hc
    refine isBlank_of_isDigit (hmajor.isDigit c ?_)
    rw [List.head?_append_of_ne_nil _ hmajor.ne_nil] at hc
    exact List.mem_of_mem_head? hc
  · intro c hc
    refine isBlank_of_isDigit (hminor.isDigit c ?_)
    rw [List.getLast?_append_of_ne_nil _ (List.cons_ne_nil _ _),
      List.getLast?_cons_of_ne_nil hminor.ne_nil] at hc
    exact List.mem_of_mem_getLast? hc

end Version

/-! ## What is read -/

namespace Settings

open Unicode Version

variable {text : String} {major minor : List Char}

/-- A text of another form names no version. -/
lemma versionOf_of_not_hasForm (h : ∀ major minor, ¬ HasForm text major minor) :
    versionOf text = .error (.invalidVersion text) := by
  have hsplit : splitText (trim text.toList) = none := by
    rw [Option.eq_none_iff_forall_ne_some]
    rintro ⟨major, minor⟩ hsome
    exact h major minor (splitText_trim_eq_some_iff.1 hsome)
  unfold versionOf ofText
  rw [hsplit]

/-- A text of the form is read number by number. -/
lemma versionOf_of_hasForm (h : HasForm text major minor) : versionOf text =
    if maxDigits < major.length then .error (.tooManyDigits major.length)
    else if maxDigits < minor.length then .error (.tooManyDigits minor.length)
    else if decimalValue major = Version.major ∧ leastMinor ≤ decimalValue minor then
      .ok ⟨decimalValue minor⟩
    else .error (.invalidVersion text) := by
  unfold versionOf ofText
  rw [splitText_trim_eq_some_iff.2 h]
  dsimp only
  split_ifs <;> rfl

/-- Two numerals that are not too long are read, and their values decide. -/
lemma versionOf_of_length_le (h : HasForm text major minor) (hmajor : major.length ≤ 4300)
    (hminor : minor.length ≤ 4300) : versionOf text =
      if decimalValue major = 3 ∧ 7 ≤ decimalValue minor then .ok ⟨decimalValue minor⟩
      else .error (.invalidVersion text) := by
  have hshort : ¬ maxDigits < major.length := not_lt.2 hmajor
  have hshort' : ¬ maxDigits < minor.length := not_lt.2 hminor
  rw [versionOf_of_hasForm h, if_neg hshort, if_neg hshort']
  rfl

/-- The major number is read first. -/
lemma versionOf_of_lt_length_major (h : HasForm text major minor) (hmajor : 4300 < major.length) :
    versionOf text = .error (.tooManyDigits major.length) := by
  have hlong : maxDigits < major.length := hmajor
  rw [versionOf_of_hasForm h, if_pos hlong]

/-- A minor numeral that is too long is refused with its number of digits. -/
lemma versionOf_of_lt_length_minor (h : HasForm text major minor) (hmajor : major.length ≤ 4300)
    (hminor : 4300 < minor.length) : versionOf text = .error (.tooManyDigits minor.length) := by
  have hshort : ¬ maxDigits < major.length := not_lt.2 hmajor
  have hlong : maxDigits < minor.length := hminor
  rw [versionOf_of_hasForm h, if_neg hshort, if_pos hlong]

/-- A text either has another form, or one of its numbers is too long, or both can be read. -/
lemma versionOf_cases (text : String) :
    ((∀ major minor, ¬ HasForm text major minor) ∧
      versionOf text = .error (.invalidVersion text)) ∨
    ∃ major minor, HasForm text major minor ∧
      ((4300 < major.length ∧ versionOf text = .error (.tooManyDigits major.length)) ∨
      (major.length ≤ 4300 ∧ 4300 < minor.length ∧
        versionOf text = .error (.tooManyDigits minor.length)) ∨
      (major.length ≤ 4300 ∧ minor.length ≤ 4300 ∧ versionOf text =
        if decimalValue major = 3 ∧ 7 ≤ decimalValue minor then .ok ⟨decimalValue minor⟩
        else .error (.invalidVersion text))) := by
  by_cases hform : ∃ major minor, HasForm text major minor
  · obtain ⟨major, minor, h⟩ := hform
    refine Or.inr ⟨major, minor, h, ?_⟩
    rcases lt_or_ge 4300 major.length with hmajor | hmajor
    · exact Or.inl ⟨hmajor, versionOf_of_lt_length_major h hmajor⟩
    · rcases lt_or_ge 4300 minor.length with hminor | hminor
      · exact Or.inr (Or.inl ⟨hmajor, hminor, versionOf_of_lt_length_minor h hmajor hminor⟩)
      · exact Or.inr (Or.inr ⟨hmajor, hminor, versionOf_of_length_le h hmajor hminor⟩)
  · have hnone : ∀ major minor, ¬ HasForm text major minor :=
      fun major minor h => hform ⟨major, minor, h⟩
    exact Or.inl ⟨hnone, versionOf_of_not_hasForm hnone⟩

/-- A version is read exactly from what writes three and its minor number. -/
lemma versionOf_eq_ok_iff_writes {n : ℕ} : versionOf text = .ok ⟨n⟩ ↔
    7 ≤ n ∧ ∃ major minor, HasForm text major minor ∧ Writes major 3 ∧ Writes minor n ∧
      major.length ≤ 4300 ∧ minor.length ≤ 4300 := by
  constructor
  · intro hok
    rcases versionOf_cases text with ⟨-, hread⟩ | ⟨major, minor, h, hread⟩
    · simp [hread] at hok
    · rcases hread with ⟨-, hread⟩ | ⟨-, -, hread⟩ | ⟨hmajor, hminor, hread⟩
      · simp [hread] at hok
      · simp [hread] at hok
      · rw [hread] at hok
        split_ifs at hok with hvalues
        obtain rfl : decimalValue minor = n := by simpa using hok
        obtain ⟨hthree, hleast⟩ := hvalues
        have hwrites : Writes major 3 := writes_iff.2 ⟨h.major_isNumeral, hthree⟩
        exact ⟨hleast, major, minor, h, hwrites, h.minor_isNumeral.writes, hmajor, hminor⟩
  · rintro ⟨hleast, major, minor, h, hthree, hn, hmajor, hminor⟩
    obtain rfl := hn.decimalValue_eq
    rw [versionOf_of_length_le h hmajor hminor, if_pos ⟨hthree.decimalValue_eq, hleast⟩]

/-- Reading stops at the first number with too many digits. -/
lemma versionOf_eq_tooManyDigits_iff {count : ℕ} :
    versionOf text = .error (.tooManyDigits count) ↔ 4300 < count ∧
      ∃ major minor, HasForm text major minor ∧
        (major.length = count ∨ major.length ≤ 4300 ∧ minor.length = count) := by
  constructor
  · intro herror
    rcases versionOf_cases text with ⟨-, hread⟩ | ⟨major, minor, h, hread⟩
    · simp [hread] at herror
    · rcases hread with ⟨hlong, hread⟩ | ⟨hmajor, hlong, hread⟩ | ⟨-, -, hread⟩
      · obtain rfl : major.length = count := by simpa [hread] using herror
        exact ⟨hlong, major, minor, h, Or.inl rfl⟩
      · obtain rfl : minor.length = count := by simpa [hread] using herror
        exact ⟨hlong, major, minor, h, Or.inr ⟨hmajor, rfl⟩⟩
      · rw [hread] at herror
        split_ifs at herror
        simp at herror
  · rintro ⟨hlong, major, minor, h, rfl | ⟨hmajor, rfl⟩⟩
    · exact versionOf_of_lt_length_major h hlong
    · exact versionOf_of_lt_length_minor h hmajor hlong

/-- Whatever else does not name a version is refused. -/
lemma versionOf_eq_invalidVersion_iff : versionOf text = .error (.invalidVersion text) ↔
    ∀ major minor, HasForm text major minor → major.length ≤ 4300 ∧ minor.length ≤ 4300 ∧
      ¬ (Writes major 3 ∧ ∃ n, 7 ≤ n ∧ Writes minor n) := by
  constructor
  · intro herror major minor h
    rcases lt_or_ge 4300 major.length with hmajor | hmajor
    · simp [versionOf_of_lt_length_major h hmajor] at herror
    rcases lt_or_ge 4300 minor.length with hminor | hminor
    · simp [versionOf_of_lt_length_minor h hmajor hminor] at herror
    refine ⟨hmajor, hminor, ?_⟩
    rintro ⟨hthree, n, hleast, hn⟩
    have hok : versionOf text = .ok ⟨n⟩ :=
      versionOf_eq_ok_iff_writes.2 ⟨hleast, major, minor, h, hthree, hn, hmajor, hminor⟩
    simp [hok] at herror
  · intro hrefuse
    rcases versionOf_cases text with ⟨-, hread⟩ | ⟨major, minor, h, -⟩
    · exact hread
    · obtain ⟨hmajor, hminor, hvalues⟩ := hrefuse major minor h
      rw [versionOf_of_length_le h hmajor hminor, if_neg]
      rintro ⟨hthree, hleast⟩
      exact hvalues ⟨writes_iff.2 ⟨h.major_isNumeral, hthree⟩, _, hleast, h.minor_isNumeral.writes⟩

/-- Every failure to read a version is about the text as it was given, or about the number of
digits. -/
lemma versionOf_eq_error_cases {f : Failure} (h : versionOf text = .error f) :
    f = .invalidVersion text ∨ ∃ count, f = .tooManyDigits count := by
  unfold versionOf at h
  split at h
  · cases h
  · exact Or.inl (Except.error.inj h).symm
  · exact Or.inr ⟨_, (Except.error.inj h).symm⟩

/-- What comes of every text that is to name a version.  It names version three point `n` exactly if
`n` is at least seven and the text is, up to white space at its ends, a point between a string of
digits that writes three and one that writes `n`, neither of them longer than 4300 digits.  Digits
of all scripts count, and zeros may come first.  If a text of that form has a number that is longer,
then the failure tells the length of the first such number.  Every other text is refused, with a
failure that names the whole text. -/
theorem versionOf_reads_numerals (text : String) :
    (∀ n, versionOf text = .ok ⟨n⟩ ↔ 7 ≤ n ∧ ∃ front major minor back,
      text.toList = front ++ (major ++ '.' :: minor) ++ back ∧
      (∀ c ∈ front, isBlank c = true) ∧ (∀ c ∈ back, isBlank c = true) ∧
      Writes major 3 ∧ Writes minor n ∧ major.length ≤ 4300 ∧ minor.length ≤ 4300) ∧
    (∀ count, versionOf text = .error (.tooManyDigits count) ↔ 4300 < count ∧
      ∃ major minor, HasForm text major minor ∧
        (major.length = count ∨ major.length ≤ 4300 ∧ minor.length = count)) ∧
    (versionOf text = .error (.invalidVersion text) ↔ ∀ major minor, HasForm text major minor →
      major.length ≤ 4300 ∧ minor.length ≤ 4300 ∧
        ¬ (Writes major 3 ∧ ∃ n, 7 ≤ n ∧ Writes minor n)) ∧
    ∀ f, versionOf text = .error f → (∃ count, f = .tooManyDigits count) ∨
      f = .invalidVersion text ∧ f.message = "Python version " ++ text ++ " is not valid" := by
  refine ⟨fun n => ?_, fun count => versionOf_eq_tooManyDigits_iff, versionOf_eq_invalidVersion_iff,
    fun f hf => ?_⟩
  · rw [versionOf_eq_ok_iff_writes, and_congr_right_iff]
    intro _
    constructor
    · rintro ⟨major, minor, h, hthree, hn, hmajor, hminor⟩
      obtain ⟨front, back, htext, hfront, hback⟩ := h.trims.eq_append
      exact ⟨front, major, minor, back, htext, hfront, hback, hthree, hn, hmajor, hminor⟩
    · rintro ⟨front, major, minor, back, htext, hfront, hback, hthree, hn, hmajor, hminor⟩
      have hform : HasForm text major minor :=
        .of_append hthree.isNumeral hn.isNumeral htext hfront hback
      exact ⟨major, minor, hform, hthree, hn, hmajor, hminor⟩
  · rcases versionOf_eq_error_cases hf with rfl | hcount
    · exact Or.inr ⟨rfl, rfl⟩
    · exact Or.inl hcount

/-- Digits of two scripts with a zero before them, and white space of several kinds around them. -/
example : versionOf "\u2003\u0660\u0663.1\u096a\u0085\n" = .ok ⟨14⟩ := by
  decide +kernel

end Settings

end PackageIndex
