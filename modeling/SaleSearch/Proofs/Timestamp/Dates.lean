import SaleSearch.Proofs.Calendar.Elapsed
import SaleSearch.Proofs.Refusal.Timestamp

/-!
# Timestamps that are dates

A date may be cut off after the year, the month, the day, the minutes or the seconds, and the
seconds may have a fraction.  `Written` says so as a grammar that grows a date from left to right,
one part at a time, and gives each text the moment that it denotes.

* `moment?_eq_some` : the reader accepts the grammar, with what it denotes.
* `calendar?_eq_some` : a `Z` may follow, once, and the moment has to exist.
* `timestamp_of_not_numeric` : a text that is no number is never refused, and it is read as the
  seconds that have elapsed until the moment that it denotes, if it denotes one.

A reader hands the rest of the text on, and what may follow depends on how far the date has come.
So both directions carry a rest: `Written.moment?_append` says that a date in front of any rest
leaves `follow? precision` to read, and the `dated_of_` lemmas take those readers apart, the last
one first.
-/

namespace SaleSearch.Grammar

open Number Text Calendar

namespace Timestamp

/-! ## The grammar -/

/-- So many ASCII digits, which denote a number. -/
structure Figures (count : Nat) (digits : List Char) (n : Nat) : Prop where
  length : digits.length = count
  ascii : ∀ c ∈ digits, isAsciiDigit c = true
  value : digitsValue digits = n

instance (count : Nat) (digits : List Char) (n : Nat) : Decidable (Figures count digits n) :=
  decidable_of_iff
    (digits.length = count ∧ digits.all isAsciiDigit = true ∧ digitsValue digits = n)
    ⟨fun ⟨length, ascii, value⟩ => ⟨length, List.all_eq_true.1 ascii, value⟩,
      fun figures => ⟨figures.length, List.all_eq_true.2 figures.ascii, figures.value⟩⟩

/-- How far a date goes. -/
inductive Precision where
  | year
  | month
  | day
  | minute
  | second

/-- The ways to write a date, each of which goes on where the one before it ends. -/
inductive Written : Precision → List Char → Moment → Prop
  | year {digits : List Char} {year : Nat} (four : Figures 4 digits year) :
      Written .year digits { year }
  | month {date digits : List Char} {m : Moment} {month : Nat} (before : Written .year date m)
      (two : Figures 2 digits month) : Written .month (date ++ '-' :: digits) { m with month }
  | day {date digits : List Char} {m : Moment} {day : Nat} (before : Written .month date m)
      (two : Figures 2 digits day) : Written .day (date ++ '-' :: digits) { m with day }
  | minute {date hours minutes : List Char} {separator : Char} {m : Moment} {hour minute : Nat}
      (before : Written .day date m) (apart : separator = 'T' ∨ separator = ' ')
      (two : Figures 2 hours hour) (two' : Figures 2 minutes minute) :
      Written .minute (date ++ separator :: (hours ++ ':' :: minutes)) { m with hour, minute }
  | second {date digits : List Char} {m : Moment} {second : Nat} (before : Written .minute date m)
      (two : Figures 2 digits second) : Written .second (date ++ ':' :: digits) { m with second }

/-- A date of any precision, where seconds may have a fraction.  It does not count, and its digits
may be those of any script. -/
inductive Dated : List Char → Moment → Prop
  | plain {precision : Precision} {date : List Char} {m : Moment}
      (written : Written precision date m) : Dated date m
  | fraction {date digits : List Char} {m : Moment} (written : Written .second date m)
      (some : digits ≠ []) (few : digits.length ≤ 9)
      (figures : ∀ c ∈ digits, isDecimalDigit c = true) : Dated (date ++ '.' :: digits) m

lemma isFraction_iff {digits : List Char} : isFraction digits = true
    ↔ digits ≠ [] ∧ digits.length ≤ 9 ∧ ∀ c ∈ digits, isDecimalDigit c = true := by
  simp [isFraction, and_assoc]

/-- What may follow the seconds. -/
def fraction? (m : Moment) : List Char → Option Moment
  | [] => some m
  | '.' :: digits => if isFraction digits then some m else none
  | _ => none

/-- What may follow a date that has come so far. -/
def follow? : Precision → Moment → List Char → Option Moment
  | .year => month?
  | .month => day?
  | .day => time?
  | .minute => second?
  | .second => fraction?

lemma second?_colon (m : Moment) (text : List Char) : second? m (':' :: text)
    = (fixed? 2 text).bind fun found => fraction? { m with second := found.1 } found.2 := by
  rw [second?]
  refine congrArg (fixed? 2 text).bind (funext fun found => ?_)
  obtain ⟨second, rest⟩ := found
  cases rest with
  | nil => rfl
  | cons c digits =>
      by_cases point : c = '.'
      · subst point
        rfl
      · simp [fraction?, point]

/-! ## From the grammar to the reader -/

lemma Figures.fixed?_append {count n : Nat} {digits : List Char} (figures : Figures count digits n)
    (rest : List Char) : fixed? count (digits ++ rest) = some (n, rest) := by
  have taken : (digits ++ rest).take count = digits := by simp [← figures.length]
  have dropped : (digits ++ rest).drop count = rest := by simp [← figures.length]
  rw [fixed?, taken, dropped, if_pos ⟨figures.length, List.all_eq_true.2 figures.ascii⟩,
    figures.value]

/-- A date in front of any text leaves `follow? precision` to read that text, by induction on the
date. -/
lemma Written.moment?_append {precision : Precision} {date : List Char} {m : Moment}
    (written : Written precision date m) (rest : List Char) :
    moment? (date ++ rest) = follow? precision m rest := by
  induction written generalizing rest with
  | year four => simp [moment?, four.fixed?_append, follow?]
  | month before two ih => simp [ih, follow?, month?, two.fixed?_append]
  | day before two ih => simp [ih, follow?, day?, two.fixed?_append]
  | minute before apart two two' ih =>
      simp [ih, follow?, time?, apart, two.fixed?_append, two'.fixed?_append]
  | second before two ih => simp [ih, follow?, second?_colon, two.fixed?_append]

lemma follow?_nil (precision : Precision) (m : Moment) : follow? precision m [] = some m := by
  cases precision <;> rfl

/-- A date of the grammar is read as its moment. -/
lemma Dated.moment? {text : List Char} {m : Moment} (dated : Dated text m) :
    moment? text = some m := by
  cases dated with
  | plain written =>
      have read := written.moment?_append []
      rwa [List.append_nil, follow?_nil] at read
  | fraction written some few figures =>
      rw [written.moment?_append, follow?, fraction?,
        if_pos (isFraction_iff.2 ⟨some, few, figures⟩)]

/-! ## From the reader to the grammar -/

/-- Digits that were read are so many ASCII digits in front of the text. -/
lemma figures_of_bind {count : Nat} {text : List Char} {m : Moment}
    {next : Nat × List Char → Option Moment} (read : (fixed? count text).bind next = some m) :
    ∃ digits rest n, text = digits ++ rest ∧ Figures count digits n ∧ next (n, rest) = some m := by
  obtain ⟨⟨n, rest⟩, found, onward⟩ := Option.bind_eq_some_iff.1 read
  simp only [fixed?, Option.ite_none_right_eq_some, Option.some.injEq, Prod.mk.injEq,
    List.all_eq_true] at found
  obtain ⟨⟨length, ascii⟩, value, rfl⟩ := found
  exact ⟨text.take count, text.drop count, n, (List.take_append_drop count text).symm,
    ⟨length, ascii, value⟩, onward⟩

lemma Written.dated_end {precision : Precision} {date : List Char} {m m' : Moment}
    (written : Written precision date m) (read : some m = some m') : Dated (date ++ []) m' := by
  obtain rfl := Option.some.inj read
  rw [List.append_nil]
  exact .plain written

lemma dated_of_fraction? {date rest : List Char} {m m' : Moment} (before : Written .second date m)
    (read : fraction? m rest = some m') : Dated (date ++ rest) m' := by
  unfold fraction? at read
  split at read
  · exact before.dated_end read
  · rw [Option.ite_none_right_eq_some, Option.some.injEq, isFraction_iff] at read
    obtain ⟨⟨some, few, figures⟩, rfl⟩ := read
    exact .fraction before some few figures
  · cases read

lemma dated_of_second? {date rest : List Char} {m m' : Moment} (before : Written .minute date m)
    (read : second? m rest = some m') : Dated (date ++ rest) m' := by
  cases rest with
  | nil => exact before.dated_end read
  | cons c text =>
      by_cases colon : c = ':'
      · subst colon
        rw [second?_colon] at read
        obtain ⟨digits, rest, second, rfl, two, onward⟩ := figures_of_bind read
        simpa using dated_of_fraction? (before.second two) onward
      · simp [second?, colon] at read

lemma dated_of_time? {date rest : List Char} {m m' : Moment} (before : Written .day date m)
    (read : time? m rest = some m') : Dated (date ++ rest) m' := by
  unfold time? at read
  split at read
  · exact before.dated_end read
  · rw [Option.ite_none_right_eq_some] at read
    obtain ⟨apart, read⟩ := read
    obtain ⟨hours, rest, hour, rfl, two, onward⟩ := figures_of_bind read
    dsimp only at onward
    split at onward
    · obtain ⟨minutes, rest, minute, rfl, two', onward'⟩ := figures_of_bind onward
      simpa using dated_of_second? (before.minute apart two two') onward'
    · cases onward

lemma dated_of_day? {date rest : List Char} {m m' : Moment} (before : Written .month date m)
    (read : day? m rest = some m') : Dated (date ++ rest) m' := by
  unfold day? at read
  split at read
  · exact before.dated_end read
  · obtain ⟨digits, rest, day, rfl, two, onward⟩ := figures_of_bind read
    simpa using dated_of_time? (before.day two) onward
  · cases read

lemma dated_of_month? {date rest : List Char} {m m' : Moment} (before : Written .year date m)
    (read : month? m rest = some m') : Dated (date ++ rest) m' := by
  unfold month? at read
  split at read
  · exact before.dated_end read
  · obtain ⟨digits, rest, month, rfl, two, onward⟩ := figures_of_bind read
    simpa using dated_of_day? (before.month two) onward
  · cases read

/-- **`moment?` accepts exactly the texts that are `Dated`, with their moments.** -/
theorem moment?_eq_some {text : List Char} {m : Moment} : moment? text = some m ↔ Dated text m := by
  refine ⟨fun read => ?_, Dated.moment?⟩
  obtain ⟨digits, rest, year, rfl, four, onward⟩ := figures_of_bind read
  exact dated_of_month? (.year four) onward

/-! ## The zone

No date ends in `Z`, so it does not matter that the reader looks for one first. -/

/-- The last character is a digit of some script. -/
def EndsInDigit (text : List Char) : Prop :=
  ∃ front last, text = front ++ [last] ∧ isDecimalDigit last = true

lemma EndsInDigit.append {text : List Char} (h : EndsInDigit text) (before : List Char) :
    EndsInDigit (before ++ text) := by
  obtain ⟨front, last, rfl, digit⟩ := h
  exact ⟨before ++ front, last, (List.append_assoc ..).symm, digit⟩

lemma endsInDigit_of_all {digits : List Char} (some : digits ≠ [])
    (figures : ∀ c ∈ digits, isDecimalDigit c = true) : EndsInDigit digits :=
  ⟨digits.dropLast, digits.getLast some, (List.dropLast_append_getLast some).symm,
    figures _ (List.getLast_mem some)⟩

lemma Figures.endsInDigit {count n : Nat} {digits : List Char}
    (figures : Figures (count + 1) digits n) : EndsInDigit digits := by
  refine endsInDigit_of_all ?_ fun c hc => isDecimalDigit_of_isAsciiDigit (figures.ascii c hc)
  rintro rfl
  cases figures.length

lemma Written.endsInDigit {precision : Precision} {date : List Char} {m : Moment}
    (written : Written precision date m) : EndsInDigit date := by
  cases written with
  | year four => exact four.endsInDigit
  | month before two => exact (two.endsInDigit.append ['-']).append _
  | day before two => exact (two.endsInDigit.append ['-']).append _
  | minute before apart two two' =>
      exact ((two'.endsInDigit.append [':']).append (_ :: _)).append _
  | second before two => exact (two.endsInDigit.append [':']).append _

/-- Every date ends in a digit. -/
lemma Dated.endsInDigit {date : List Char} {m : Moment} (dated : Dated date m) :
    EndsInDigit date := by
  cases dated with
  | plain written => exact written.endsInDigit
  | fraction written some few figures =>
      exact ((endsInDigit_of_all some figures).append ['.']).append _

/-- No zone is stripped from a text that ends in a digit. -/
lemma stripZone_of_endsInDigit {text : List Char} (h : EndsInDigit text) :
    stripZone text = text := by
  obtain ⟨front, last, rfl, digit⟩ := h
  have last_ne : last ≠ 'Z' := by
    rintro rfl
    exact absurd digit (by decide)
  simp [stripZone, last_ne]

lemma stripZone_concat (text : List Char) : stripZone (text ++ ['Z']) = text := by
  simp [stripZone]

lemma eq_stripZone (text : List Char) :
    text = stripZone text ∨ text = stripZone text ++ ['Z'] := by
  unfold stripZone
  split
  · rename_i zone
    exact .inr (List.dropLast_append_getLast? 'Z' zone).symm
  · exact .inl rfl

/-- **`calendar?` reads a date with or without a zone as its elapsed seconds, if the moment is
`Real`.** -/
theorem calendar?_eq_some {text : List Char} {t : Int} : calendar? text = some t
    ↔ ∃ date m, (text = date ∨ text = date ++ ['Z']) ∧ Dated date m ∧ m.Real ∧ m.elapsed = t := by
  have read : calendar? text = some t
      ↔ ∃ m, Dated (stripZone text) m ∧ m.Real ∧ m.elapsed = t := by
    simp only [calendar?, Option.bind_eq_bind, Option.bind_eq_some_iff, moment?_eq_some,
      Option.ite_none_right_eq_some, Option.some.injEq, Moment.isReal_iff]
    refine exists_congr fun m => and_congr_right fun _ => and_congr_right fun real => ?_
    rw [Moment.seconds_eq_elapsed real]
  rw [read]
  constructor
  · rintro ⟨m, dated, real, elapsed⟩
    exact ⟨stripZone text, m, eq_stripZone text, dated, real, elapsed⟩
  · rintro ⟨date, m, rfl | rfl, dated, real, elapsed⟩
    · exact ⟨m, by rwa [stripZone_of_endsInDigit dated.endsInDigit], real, elapsed⟩
    · exact ⟨m, by rwa [stripZone_concat], real, elapsed⟩

end Timestamp

/-- **`timestamp` never refuses a text that is not all digits.**  It returns the elapsed seconds of
the moment that the text denotes, or nothing if it denotes none. -/
theorem timestamp_of_not_numeric {text : String} (h : isNumeric text = false) :
    ∃ result, timestamp (some text) = .ok result
      ∧ ∀ t, result = some t ↔ ∃ date m, (text.toList = date ∨ text.toList = date ++ ['Z'])
        ∧ Timestamp.Dated date m ∧ m.Real ∧ m.elapsed = t := by
  have unread : ¬(text ≠ "" ∧ text.toList.all isAsciiDigit = true) := by
    rw [← isNumeric_iff, h]
    exact Bool.false_ne_true
  refine ⟨Timestamp.calendar? text.toList, ?_, fun t => Timestamp.calendar?_eq_some⟩
  rw [timestamp, Timestamp.read, if_neg unread]

/-- A leap day is `Real`, and the fraction and the zone behind it do not count. -/
theorem timestamp_of_not_numeric_leapDay :
    isNumeric "2000-02-29T23:59:59.٣7Z" = false
      ∧ timestamp (some "2000-02-29T23:59:59.٣7Z") = .ok (some 951868799) := by
  have unread : isNumeric "2000-02-29T23:59:59.٣7Z" = false := by decide
  obtain ⟨result, read, denotes⟩ := timestamp_of_not_numeric unread
  have year : Timestamp.Written .year ['2', '0', '0', '0'] { year := 2000 } := .year (by decide)
  have month := year.month (show Timestamp.Figures 2 ['0', '2'] 2 by decide)
  have day := month.day (show Timestamp.Figures 2 ['2', '9'] 29 by decide)
  have minute := day.minute (.inl rfl) (show Timestamp.Figures 2 ['2', '3'] 23 by decide)
    (show Timestamp.Figures 2 ['5', '9'] 59 by decide)
  have second := minute.second (show Timestamp.Figures 2 ['5', '9'] 59 by decide)
  have fraction : Timestamp.isFraction ['٣', '7'] = true := by decide
  obtain ⟨some, few, figures⟩ := Timestamp.isFraction_iff.1 fraction
  have dated : Timestamp.Dated (_ ++ '.' :: ['٣', '7']) _ := .fraction second some few figures
  refine ⟨unread, ?_⟩
  rw [read, (denotes 951868799).2 ⟨_, _, .inr rfl, dated, ?_, by decide⟩]
  constructor <;> decide

end SaleSearch.Grammar
