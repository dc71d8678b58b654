import SubscriptionBundles.Calendar.Written

/-!
# Written dates and instants read back

Readers allow more than writers use, but what is written they read as what it was.  And whatever they
read is representable, so it can be written and read again.

* `takeNumber_append`          digits are read up to where they stop;
* `scanYear_writtenYear`       a year, with its sign if it has one;
* `scanDate_chars`, `scanTime_writtenTime`  a date and a time of day at the head of a text;
* `Date.read?_written`, `Instant.read?_written`  what is written reads back;
* `Date.isRepresentable_of_read?`, `Instant.isRepresentable_of_read?`  what is read is representable.
-/

namespace SubscriptionBundles

open Text

/-! ## digits -/

namespace Text

theorem isDigit_digit (n : Nat) : (digit n).isDigit = true := by
  have all : ∀ d : Fin 10, (digit d.val).isDigit = true := by decide
  have same : digit n = digit (n % 10) := by simp [digit]
  rw [same]
  exact all ⟨n % 10, Nat.mod_lt _ (by decide)⟩

theorem isDigit_of_mem_padded {width n : Nat} {c : Char} (h : c ∈ padded width n) :
    c.isDigit = true := by
  induction width generalizing n with
  | zero => cases h
  | succ width ih =>
    rcases List.mem_append.1 h with h | h
    · exact ih h
    · rw [List.mem_singleton.1 h]
      exact isDigit_digit n

theorem padded_ne_nil (width n : Nat) : padded (width + 1) n ≠ [] :=
  List.append_ne_nil_of_right_ne_nil _ (List.cons_ne_nil _ _)

theorem isDigit_of_mem_decimal {n : Nat} {c : Char} (h : c ∈ decimal n) : c.isDigit = true := by
  induction n using decimal.induct with
  | case1 n small =>
    rw [decimal, if_pos small] at h
    rw [List.mem_singleton.1 h]
    exact isDigit_digit n
  | case2 n large ih =>
    rw [decimal, if_neg large] at h
    rcases List.mem_append.1 h with h | h
    · exact ih h
    · rw [List.mem_singleton.1 h]
      exact isDigit_digit n

theorem decimal_ne_nil (n : Nat) : decimal n ≠ [] := by
  rw [decimal]
  split
  · exact List.cons_ne_nil _ _
  · exact List.append_ne_nil_of_right_ne_nil _ (List.cons_ne_nil _ _)

theorem isBlank_of_isDigit {c : Char} (h : c.isDigit = true) : isBlank c = false := by
  have bounds : 48 ≤ c.toNat ∧ c.toNat ≤ 57 := by
    simpa [Char.isDigit, UInt32.le_iff_toNat_le] using h
  rw [isBlank, inRanges, List.any_eq_false]
  intro range member
  have outside : range.2 < 48 ∨ 57 < range.1 := by
    revert range
    decide
  simp only [Bool.and_eq_true, decide_eq_true_eq]
  omega

/-- no digit comes next -/
def Stops (cs : List Char) : Prop := ∀ c ∈ cs.head?, c.isDigit = false

theorem stops_cons {c : Char} (h : c.isDigit = false) (cs : List Char) : Stops (c :: cs) := by
  intro d hd
  cases hd
  exact h

section
variable {digits rest : List Char} (all : ∀ c ∈ digits, c.isDigit = true)
include all

theorem takeNumber_append {limit : Nat} (some_digit : digits ≠ []) (fits : digits.length ≤ limit)
    (stops : digits.length = limit ∨ Stops rest) :
    takeNumber limit (digits ++ rest) = some (ofDigits digits, rest) := by
  have none_after : (rest.take (limit - digits.length)).takeWhile Char.isDigit = [] := by
    rcases stops with full | stops
    · rw [full, Nat.sub_self]
      rfl
    · cases rest with
      | nil => rw [List.take_nil, List.takeWhile_nil]
      | cons c rest =>
        cases limit - digits.length with
        | zero => rfl
        | succ more =>
          have mark : c.isDigit = false := stops c rfl
          rw [List.take_succ_cons, List.takeWhile_cons_of_neg (by rw [mark]; decide)]
  have taken : ((digits ++ rest).take limit).takeWhile Char.isDigit = digits := by
    rw [List.take_append, List.take_of_length_le fits, List.takeWhile_append_of_pos all, none_after,
      List.append_nil]
  unfold takeNumber
  rw [taken]
  dsimp only
  rw [if_neg (by simpa using some_digit), List.drop_left]

theorem takeLongNumber_append (some_digit : digits ≠ []) (stops : Stops rest) :
    takeLongNumber (digits ++ rest) = some (ofDigits digits, rest) := by
  refine takeNumber_append all some_digit ?_ (.inr stops)
  rw [List.length_append]
  exact Nat.le_add_right _ _

theorem skipBlanks_append_of_digits (some_digit : digits ≠ []) :
    skipBlanks (digits ++ rest) = digits ++ rest := by
  cases digits with
  | nil => exact absurd rfl some_digit
  | cons d digits => exact skipBlanks_cons (isBlank_of_isDigit (all d List.mem_cons_self)) _

end

end Text

theorem scanNumber_padded {width n : Nat} (small : n < Nat.pow 10 (width + 1)) (rest : List Char) :
    scanNumber (width + 1) (padded (width + 1) n ++ rest) = some (n, rest) := by
  have all : ∀ c ∈ padded (width + 1) n, c.isDigit = true := fun _ => isDigit_of_mem_padded
  have length := padded_length (width + 1) n
  unfold scanNumber
  rw [skipBlanks_append_of_digits all (padded_ne_nil width n),
    takeNumber_append all (padded_ne_nil width n) (Nat.le_of_eq length) (.inl length),
    ofDigits_padded, Nat.mod_eq_of_lt small]

theorem scanMark_cons {mark : Char} (h : isBlank mark = false) (rest : List Char) :
    scanMark mark (mark :: rest) = some rest := by
  unfold scanMark
  rw [skipBlanks_cons h]
  exact if_pos rfl

/-! ## dates -/

theorem scanYear_of_digit {c : Char} (h : c.isDigit = true) (cs : List Char) :
    scanYear (c :: cs) = (takeNumber 4 (c :: cs)).map fun (n, rest) => ((n : Int), rest) := by
  unfold scanYear
  rw [skipBlanks_cons (isBlank_of_isDigit h)]
  split
  · next sign =>
    cases sign
    cases h
  · next sign =>
    cases sign
    cases h
  · rfl

theorem scanYear_minus (cs : List Char) :
    scanYear ('-' :: cs) = (takeLongNumber cs).map fun (n, rest) => (-(n : Int), rest) := by
  unfold scanYear
  rw [skipBlanks_cons (by decide)]
  rfl

theorem scanYear_plus (cs : List Char) :
    scanYear ('+' :: cs) = (takeLongNumber cs).map fun (n, rest) => ((n : Int), rest) := by
  unfold scanYear
  rw [skipBlanks_cons (by decide)]
  rfl

/-- at least four digits, which is what follows a sign -/
theorem takeLongNumber_four (n : Nat) {rest : List Char} (stops : Stops rest) :
    takeLongNumber ((if n ≤ 9999 then padded 4 n else decimal n) ++ rest) = some (n, rest) := by
  by_cases small : n ≤ 9999
  · have value : ofDigits (padded 4 n) = n := by
      rw [ofDigits_padded]
      exact Nat.mod_eq_of_lt (show n < 10000 by omega)
    rw [if_pos small, takeLongNumber_append (fun _ => isDigit_of_mem_padded) (padded_ne_nil 3 n) stops,
      value]
  · rw [if_neg small,
      takeLongNumber_append (fun _ => isDigit_of_mem_decimal) (decimal_ne_nil n) stops,
      ofDigits_decimal]

theorem scanYear_padded {n : Nat} (small : n ≤ 9999) (rest : List Char) :
    scanYear (padded 4 n ++ rest) = some ((n : Int), rest) := by
  have all : ∀ c ∈ padded 4 n, c.isDigit = true := fun _ => isDigit_of_mem_padded
  have scanned : takeNumber 4 (padded 4 n ++ rest) = some (ofDigits (padded 4 n), rest) :=
    takeNumber_append all (padded_ne_nil 3 n) (Nat.le_of_eq (padded_length 4 n))
      (.inl (padded_length 4 n))
  rw [ofDigits_padded, Nat.mod_eq_of_lt (show n < 10000 by omega)] at scanned
  cases digits : padded 4 n with
  | nil => exact absurd digits (padded_ne_nil 3 n)
  | cons c cs =>
    rw [digits] at all scanned
    rw [List.cons_append, scanYear_of_digit (all c List.mem_cons_self), ← List.cons_append, scanned]
    rfl

theorem scanYear_writtenYear (year : Int) {rest : List Char} (stops : Stops rest) :
    scanYear (writtenYear year ++ rest) = some (year, rest) := by
  unfold writtenYear
  by_cases plain : 0 ≤ year ∧ year ≤ 9999
  · have whole : ((year.toNat : Nat) : Int) = year := by omega
    rw [if_pos plain, scanYear_padded (by omega), whole]
  · rw [if_neg plain, List.cons_append]
    by_cases negative : year < 0
    · have value : -(year.natAbs : Int) = year := by omega
      rw [if_pos negative, scanYear_minus, takeLongNumber_four _ stops, Option.map_some]
      dsimp only
      rw [value]
    · have value : (year.natAbs : Int) = year := by omega
      rw [if_neg negative, scanYear_plus, takeLongNumber_four _ stops, Option.map_some]
      dsimp only
      rw [value]

namespace Date

theorem representable?_of_isRepresentable {d : Date} (h : d.isRepresentable = true) :
    d.representable? = some d := by
  unfold representable?
  rw [if_pos h]

theorem isRepresentable_of_representable? {d e : Date} (h : d.representable? = some e) :
    e.isRepresentable = true := by
  unfold representable? at h
  split at h
  · cases h
    assumption
  · cases h

end Date

theorem scanDate_chars {d : Date} (h : d.isRepresentable = true) (rest : List Char) :
    scanDate (d.chars ++ rest) = some (d, rest) := by
  have months := d.exists_month
  have days := d.exists_day
  have longest := daysInMonth_le d.year d.month
  have split : d.chars ++ rest = writtenYear d.year ++
      '-' :: (padded 2 d.month ++ '-' :: (padded 2 d.day ++ rest)) := by
    simp [Date.chars]
  unfold scanDate
  rw [split, scanYear_writtenYear d.year (stops_cons (by decide) _)]
  simp only [Option.bind_eq_bind, Option.bind_some, Option.pure_def]
  rw [scanMark_cons (by decide), Option.bind_some,
    scanNumber_padded (show d.month < 100 by omega), Option.bind_some]
  dsimp only
  rw [scanMark_cons (by decide), Option.bind_some,
    scanNumber_padded (show d.day < 100 by omega), Option.bind_some]
  dsimp only
  rw [Date.ofYmd?_self, Option.bind_some, Date.representable?_of_isRepresentable h, Option.bind_some]

theorem isRepresentable_of_scanDate {cs rest : List Char} {d : Date}
    (h : scanDate cs = some (d, rest)) : d.isRepresentable = true := by
  unfold scanDate at h
  simp only [Option.bind_eq_bind, Option.bind_eq_some_iff, Option.pure_def, Option.some.injEq,
    Prod.mk.injEq] at h
  obtain ⟨_, _, _, _, _, _, _, _, _, _, _, _, _, representable, rfl, _⟩ := h
  exact Date.isRepresentable_of_representable? representable

namespace Date

theorem read?_written {d : Date} (h : d.isRepresentable = true) : read? d.written = some d := by
  have scanned := scanDate_chars h []
  rw [List.append_nil] at scanned
  unfold read? readChars? written
  rw [String.toList_ofList, scanned]
  rfl

theorem isRepresentable_of_read? {text : String} {d : Date} (h : read? text = some d) :
    d.isRepresentable = true := by
  unfold read? readChars? at h
  split at h
  · next scanned =>
    split at h
    · cases h
      exact isRepresentable_of_scanDate scanned
    · cases h
  · cases h

end Date

/-! ## instants -/

theorem scanFraction_point (cs : List Char) :
    scanFraction ('.' :: cs) = (takeNumber 9 cs).bind fun (n, after) =>
      some (n * Nat.pow 10 (9 - (cs.length - after.length)), after.dropWhile Char.isDigit) := rfl

section
variable {c : Char} (mark : c.isDigit = false) (cs : List Char)
include mark

/-- a point and so many digits of a second's fraction -/
theorem scanFraction_padded {width n : Nat} (fits : width + 1 ≤ 9) (small : n < Nat.pow 10 (width + 1)) :
    scanFraction ('.' :: (padded (width + 1) n ++ c :: cs)) =
      some (n * Nat.pow 10 (9 - (width + 1)), c :: cs) := by
  have all : ∀ d ∈ padded (width + 1) n, d.isDigit = true := fun _ => isDigit_of_mem_padded
  have length := padded_length (width + 1) n
  have scanned : takeNumber 9 (padded (width + 1) n ++ c :: cs) =
      some (ofDigits (padded (width + 1) n), c :: cs) :=
    takeNumber_append all (padded_ne_nil width n) (by omega) (.inr (stops_cons mark cs))
  have used : (padded (width + 1) n ++ c :: cs).length - (c :: cs).length = width + 1 := by
    rw [List.length_append, length]
    omega
  rw [scanFraction_point, scanned, Option.bind_some]
  dsimp only
  rw [used, ofDigits_padded, Nat.mod_eq_of_lt small,
    List.dropWhile_cons_of_neg (by rw [mark]; decide)]

theorem scanFraction_writtenFraction (no_point : c ≠ '.') {n : Nat} (small : n < 1000000000) :
    scanFraction (writtenFraction n ++ c :: cs) = some (n, c :: cs) := by
  unfold writtenFraction
  by_cases whole : n = 0
  · rw [if_pos whole, List.nil_append, whole]
    unfold scanFraction
    split
    · next point =>
      cases point
      exact absurd rfl no_point
    · rfl
  rw [if_neg whole]
  by_cases milli : n % 1000000 = 0
  · have value : n / 1000000 * Nat.pow 10 6 = n := by
      show n / 1000000 * 1000000 = n
      omega
    rw [if_pos milli, List.cons_append, scanFraction_padded mark cs (by decide)
      (show n / 1000000 < 1000 by omega), value]
  rw [if_neg milli]
  by_cases micro : n % 1000 = 0
  · have value : n / 1000 * Nat.pow 10 3 = n := by
      show n / 1000 * 1000 = n
      omega
    rw [if_pos micro, List.cons_append, scanFraction_padded mark cs (by decide)
      (show n / 1000 < 1000000 by omega), value]
  rw [if_neg micro, List.cons_append, scanFraction_padded mark cs (by decide)
    (show n < 1000000000 from small)]
  exact congrArg some (Prod.ext (Nat.mul_one n) rfl)

theorem scanTime_writtenTime (no_point : c ≠ '.') (t : TimeOfDay) :
    scanTime (writtenTime t ++ c :: cs) = some (t, c :: cs) := by
  have second := t.second_lt
  have leap := t.isLeap.toNat_le
  have split : writtenTime t ++ c :: cs = padded 2 t.hour ++ ':' :: (padded 2 t.minute ++
      ':' :: (padded 2 t.clockSecond ++ (writtenFraction t.nanosecond ++ c :: cs))) := by
    simp [writtenTime]
  have hour : t.hour < 100 := by
    unfold TimeOfDay.hour
    omega
  have minute : t.minute < 100 := by
    unfold TimeOfDay.minute
    omega
  have clock : t.clockSecond < 100 := by
    unfold TimeOfDay.clockSecond
    omega
  unfold scanTime
  rw [split, scanNumber_padded hour]
  simp only [Option.bind_eq_bind, Option.bind_some, Option.pure_def]
  rw [scanMark_cons (by decide), Option.bind_some, scanNumber_padded minute, Option.bind_some]
  dsimp only
  rw [scanMark_cons (by decide), Option.bind_some, scanNumber_padded clock, Option.bind_some]
  dsimp only
  rw [scanFraction_writtenFraction mark cs no_point t.nanosecond_lt, Option.bind_some]
  dsimp only
  rw [TimeOfDay.ofClock?_self, Option.bind_some]

end

namespace Instant

theorem addMinutes_zero (i : Instant) : i.addMinutes 0 = i := by
  have second := i.time.second_lt
  have day : (i.second + 60 * 0) / 86400 = i.day := by
    unfold Instant.second
    omega
  have time : ((i.second + 60 * 0) % 86400).toNat = i.time.second := by
    unfold Instant.second
    omega
  obtain ⟨_, _, _, _, _, _, _⟩ := i
  simp only [addMinutes, mk.injEq, TimeOfDay.mk.injEq, and_true]
  exact ⟨day, time⟩

theorem readChars?_charsIn {i : Instant} (h : i.isRepresentable = true) :
    readChars? (i.charsIn .wire) = some i := by
  have split : i.charsIn .wire = i.date.chars ++ 'T' :: (writtenTime i.time ++ ['Z']) := by
    simp [charsIn, InstantStyle.wire]
  unfold readChars?
  rw [split, scanDate_chars h]
  simp only [Option.bind_eq_bind, Option.bind_some]
  rw [scanTime_writtenTime (by decide) [] (by decide), Option.bind_some]
  dsimp only
  rw [skipBlanks_cons (by decide)]
  show (if (skipBlanks []).isEmpty = true then
    ((ofDate i.date i.time).addMinutes (-0)).representable? else none) = some i
  rw [skipBlanks_nil, if_pos (show ([] : List Char).isEmpty = true from rfl), ofDate_date,
    Int.neg_zero, addMinutes_zero]
  exact if_pos h

theorem read?_written {i : Instant} (h : i.isRepresentable = true) : read? i.written = some i := by
  unfold read? written writtenIn
  rw [String.toList_ofList]
  exact readChars?_charsIn h

theorem isRepresentable_of_representable? {i j : Instant} (h : i.representable? = some j) :
    j.isRepresentable = true := by
  unfold representable? at h
  split at h
  · cases h
    assumption
  · cases h

theorem isRepresentable_of_read? {text : String} {i : Instant} (h : read? text = some i) :
    i.isRepresentable = true := by
  unfold read? readChars? at h
  simp only [Option.bind_eq_bind, Option.bind_eq_some_iff] at h
  obtain ⟨⟨date, after⟩, _, h⟩ := h
  -- whatever stands between date and time, the rest is read alike
  have told : ∀ cs, ((scanTime cs).bind fun time => (scanZone (skipBlanks time.2)).bind fun zone =>
      if (skipBlanks zone.2).isEmpty = true then
        ((ofDate date time.1).addMinutes (-zone.1)).representable?
      else none) = some i → i.isRepresentable = true := by
    intro cs h
    obtain ⟨time, _, h⟩ := Option.bind_eq_some_iff.1 h
    obtain ⟨zone, _, h⟩ := Option.bind_eq_some_iff.1 h
    split at h
    · exact isRepresentable_of_representable? h
    · cases h
  split at h
  · exact told _ h
  · exact told _ h
  · exact told _ h
  · cases h

end Instant

end SubscriptionBundles
