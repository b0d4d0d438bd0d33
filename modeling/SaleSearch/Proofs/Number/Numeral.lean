import Mathlib.Data.List.TakeWhile
import SaleSearch.Number.Numeral

/-!
# The language of numerals

A numeral is `[+-]? (d+ ('.' d*)? | '.' d+) ([eE] [+-]? d+)?`, for any class `d` of digits that
holds none of the marks.  `Numeral.Written` is this language, and says which numeral a text is.

The scanner takes all that it can at each step and never goes back.  What it finds is the longest
numeral in front of the text nevertheless, since each part ends where nothing that may follow it
goes on with it: reading a numeral with any text after it never ends inside the numeral,
`Written.scan_append`.

* `Longest` : the longest text of a language in front of a text.
* `scan_eq_some`, `scan_eq_none` : the scanner finds the longest numeral, if there is one.
-/

namespace SaleSearch.Number

/-- A run of a class of characters ends where something else follows. -/
lemma span_append {p : Char → Bool} {run rest : List Char} (inside : ∀ c ∈ run, p c = true)
    (stops : ∀ c ∈ rest.head?, p c = false) :
    (run ++ rest).takeWhile p = run ∧ (run ++ rest).dropWhile p = rest := by
  rw [List.takeWhile_append_of_pos inside, List.dropWhile_append_of_pos inside]
  cases rest with
  | nil => simp
  | cons c others => simp [stops c rfl]

lemma dropWhile_stops (p : Char → Bool) (text : List Char) :
    ∀ c ∈ (text.dropWhile p).head?, p c = false := by
  intro c first
  have stops := List.head?_dropWhile_not p text
  rw [Option.mem_def.1 first] at stops
  exact stops

/-! ## Signs -/

/-- An optional sign, and whether it is a minus. -/
inductive Sign : Bool → List Char → Prop
  | absent : Sign false []
  | plus : Sign false ['+']
  | minus : Sign true ['-']

/-- A text without a sign in front. -/
def Unsigned (text : List Char) : Prop :=
  ∀ c ∈ text.head?, c ≠ '+' ∧ c ≠ '-'

lemma Sign.takeSign_append {negative : Bool} {sign : List Char} (signed : Sign negative sign)
    {rest : List Char} (unsigned : Unsigned rest) :
    takeSign (sign ++ rest) = (negative, rest) := by
  cases signed with
  | absent =>
      cases rest with
      | nil => rfl
      | cons c others =>
          obtain ⟨plus, minus⟩ := unsigned c rfl
          simp [takeSign, plus, minus]
  | plus => rfl
  | minus => rfl

/-- `takeSign` takes an optional sign off a text. -/
lemma exists_sign (text : List Char) :
    ∃ sign, text = sign ++ (takeSign text).2 ∧ Sign (takeSign text).1 sign := by
  unfold takeSign
  split
  · exact ⟨['-'], rfl, .minus⟩
  · exact ⟨['+'], rfl, .plus⟩
  · exact ⟨[], rfl, .absent⟩

/-! ## The longest text of a language -/

/-- `found` is the longest text of the language in front of the text. -/
structure Longest (language : List Char → Prop) (text found : List Char) : Prop where
  starts : found <+: text
  inside : language found
  longest : ∀ other, other <+: text → language other → other.length ≤ found.length

namespace Numeral

/-! ## The grammar -/

/-- `d+ ('.' d*)? | '.' d+`, with the digits before and after the point. -/
inductive Mantissa (isDigit : Char → Bool) : List Char → List Char → List Char → Prop
  | plain {whole : List Char} (nonempty : whole ≠ []) (figures : ∀ c ∈ whole, isDigit c = true) :
      Mantissa isDigit whole [] whole
  | pointed {whole fraction : List Char} (nonempty : whole ≠ [] ∨ fraction ≠ [])
      (figures : ∀ c ∈ whole, isDigit c = true) (figures' : ∀ c ∈ fraction, isDigit c = true) :
      Mantissa isDigit whole fraction (whole ++ '.' :: fraction)

/-- `([eE] [+-]? d+)?`, with the sign and the digits. -/
inductive Exponent (isDigit : Char → Bool) : Option (Bool × List Char) → List Char → Prop
  | absent : Exponent isDigit none []
  | given {mark : Char} {negative : Bool} {sign digits : List Char}
      (marked : mark = 'e' ∨ mark = 'E') (signed : Sign negative sign) (nonempty : digits ≠ [])
      (figures : ∀ c ∈ digits, isDigit c = true) :
      Exponent isDigit (some (negative, digits)) (mark :: (sign ++ digits))

/-- A text is a numeral. -/
inductive Written (isDigit : Char → Bool) : Numeral → List Char → Prop
  | intro {negative : Bool} {sign whole fraction mantissa : List Char}
      {exponent : Option (Bool × List Char)} {power : List Char} (signed : Sign negative sign)
      (before : Mantissa isDigit whole fraction mantissa)
      (after : Exponent isDigit exponent power) :
      Written isDigit { negative, whole, fraction, exponent } (sign ++ (mantissa ++ power))

/-- The texts that are numerals. -/
def language (isDigit : Char → Bool) (text : List Char) : Prop :=
  ∃ n, Written isDigit n text

/-- The characters of a numeral that are no digits. -/
def marks : List Char :=
  ['+', '-', '.', 'e', 'E']

variable {isDigit : Char → Bool}

/-! ## The scanner, part by part -/

/-- The digits before and after the point, and the text after them. -/
def mantissa? (isDigit : Char → Bool) (body : List Char) :
    Option (List Char × List Char × List Char) :=
  let whole := body.takeWhile isDigit
  match body.dropWhile isDigit with
  | '.' :: after =>
      if whole.isEmpty && (after.takeWhile isDigit).isEmpty then none
      else some (whole, after.takeWhile isDigit, after.dropWhile isDigit)
  | after => if whole.isEmpty then none else some (whole, [], after)

lemma mantissa?_pointed {body after : List Char} (dropped : body.dropWhile isDigit = '.' :: after) :
    mantissa? isDigit body
      = if (body.takeWhile isDigit).isEmpty && (after.takeWhile isDigit).isEmpty then none
        else some (body.takeWhile isDigit, after.takeWhile isDigit, after.dropWhile isDigit) := by
  rw [mantissa?, dropped]
  rfl

lemma mantissa?_plain {body : List Char} (dropped : (body.dropWhile isDigit).head? ≠ some '.') :
    mantissa? isDigit body
      = if (body.takeWhile isDigit).isEmpty then none
        else some (body.takeWhile isDigit, [], body.dropWhile isDigit) := by
  rw [mantissa?]
  generalize body.dropWhile isDigit = after at *
  split
  · exact absurd rfl dropped
  · rfl

lemma scan_eq (text : List Char) :
    scan isDigit text = (mantissa? isDigit (takeSign text).2).map fun found =>
      ({ negative := (takeSign text).1, whole := found.1, fraction := found.2.1
         exponent := (scanExponent isDigit found.2.2).1 }, (scanExponent isDigit found.2.2).2) := by
  unfold scan mantissa?
  generalize takeSign text = signed
  obtain ⟨negative, body⟩ := signed
  dsimp only
  generalize body.takeWhile isDigit = whole
  rcases body.dropWhile isDigit with - | ⟨c, after⟩
  · cases whole <;> rfl
  · by_cases point : c = '.'
    · subst point
      cases empty : whole.isEmpty && (after.takeWhile isDigit).isEmpty <;> simp [empty]
    · cases whole <;> simp [point]

/-! ## What is found is a numeral -/

lemma mantissa?_sound {body whole fraction rest : List Char}
    (found : mantissa? isDigit body = some (whole, fraction, rest)) :
    ∃ mantissa, body = mantissa ++ rest ∧ Mantissa isDigit whole fraction mantissa := by
  have parts := List.takeWhile_append_dropWhile (p := isDigit) (l := body)
  have figures (l : List Char) : ∀ c ∈ l.takeWhile isDigit, isDigit c = true := fun c hc =>
    List.mem_takeWhile_imp hc
  unfold mantissa? at found
  dsimp only at found
  split at found
  · rename_i after dropped
    simp only [Option.ite_none_left_eq_some, Option.some.injEq, Prod.mk.injEq] at found
    obtain ⟨nonempty, rfl, rfl, rfl⟩ := found
    refine ⟨body.takeWhile isDigit ++ '.' :: after.takeWhile isDigit, ?_,
      .pointed ?_ (figures body) (figures after)⟩
    · rw [List.append_assoc, List.cons_append, List.takeWhile_append_dropWhile, ← dropped, parts]
    · simpa [Decidable.imp_iff_not_or] using nonempty
  · simp only [Option.ite_none_left_eq_some, Option.some.injEq, Prod.mk.injEq] at found
    obtain ⟨nonempty, rfl, rfl, rfl⟩ := found
    exact ⟨body.takeWhile isDigit, parts.symm, .plain (by simpa using nonempty) (figures body)⟩

lemma scanExponent_sound (isDigit : Char → Bool) (text : List Char) :
    ∃ power, text = power ++ (scanExponent isDigit text).2
      ∧ Exponent isDigit (scanExponent isDigit text).1 power := by
  cases text with
  | nil => exact ⟨[], rfl, .absent⟩
  | cons c rest =>
      obtain ⟨sign, eq, signed⟩ := exists_sign rest
      unfold scanExponent
      dsimp only
      split
      · rename_i given
        obtain ⟨marked, nonempty⟩ := given
        refine ⟨c :: (sign ++ (takeSign rest).2.takeWhile isDigit), ?_,
          .given marked signed (by simpa using nonempty) fun d hd => List.mem_takeWhile_imp hd⟩
        rw [List.cons_append, List.append_assoc, List.takeWhile_append_dropWhile, ← eq]
      · exact ⟨[], rfl, .absent⟩

lemma scan_sound {text rest : List Char} {n : Numeral}
    (found : scan isDigit text = some (n, rest)) :
    ∃ numeral, text = numeral ++ rest ∧ Written isDigit n numeral := by
  rw [scan_eq, Option.map_eq_some_iff] at found
  obtain ⟨⟨whole, fraction, after⟩, found, eq⟩ := found
  obtain ⟨sign, text_eq, signed⟩ := exists_sign text
  obtain ⟨mantissa, body_eq, before⟩ := mantissa?_sound found
  obtain ⟨power, after_eq, exponent⟩ := scanExponent_sound isDigit after
  obtain ⟨rfl, rfl⟩ := Prod.mk.inj eq
  refine ⟨sign ++ (mantissa ++ power), ?_, .intro signed before exponent⟩
  rw [List.append_assoc, List.append_assoc, ← after_eq, ← body_eq, ← text_eq]

/-! ## Nothing of a numeral is left -/

/-- A point with a digit on one of its sides keeps it, whatever digits are added. -/
lemma isEmpty_and_append {whole fraction : List Char} (nonempty : whole ≠ [] ∨ fraction ≠ [])
    (more : List Char) : (whole.isEmpty && (fraction ++ more).isEmpty) = false := by
  rcases nonempty with nonempty | nonempty <;> simp [nonempty]

section

variable (marked : ∀ c ∈ marks, isDigit c = false)

include marked

lemma unsigned_of_digits {digits : List Char} (nonempty : digits ≠ [])
    (figures : ∀ c ∈ digits, isDigit c = true) (rest : List Char) : Unsigned (digits ++ rest) := by
  obtain ⟨c, others, rfl⟩ := List.exists_cons_of_ne_nil nonempty
  have digit := figures c (by simp)
  intro d first
  obtain rfl : c = d := by simpa using first
  constructor
  · rintro rfl
    simp [marked '+' (by decide)] at digit
  · rintro rfl
    simp [marked '-' (by decide)] at digit

lemma Mantissa.unsigned {whole fraction mantissa : List Char}
    (written : Mantissa isDigit whole fraction mantissa) (rest : List Char) :
    Unsigned (mantissa ++ rest) := by
  cases written with
  | plain nonempty figures => exact unsigned_of_digits marked nonempty figures rest
  | pointed nonempty figures figures' =>
      by_cases only : whole = []
      · subst only
        intro c first
        obtain rfl : '.' = c := by simpa using first
        decide
      · rw [List.append_assoc]
        exact unsigned_of_digits marked only figures _

/-- With any text after it, a mantissa is read at least as far as it goes. -/
lemma Mantissa.mantissa?_append {whole fraction mantissa : List Char}
    (written : Mantissa isDigit whole fraction mantissa) (rest : List Char) :
    ∃ whole' fraction' rest', mantissa? isDigit (mantissa ++ rest) = some (whole', fraction', rest')
      ∧ rest' <:+ rest := by
  cases written with
  | plain nonempty figures =>
      have dropped : rest.dropWhile isDigit <:+ rest := List.dropWhile_suffix _
      have body : (whole ++ rest).dropWhile isDigit = rest.dropWhile isDigit :=
        List.dropWhile_append_of_pos figures
      have some_left : ((whole ++ rest).takeWhile isDigit).isEmpty = false := by
        rw [List.takeWhile_append_of_pos figures]
        simp [nonempty]
      by_cases point : (rest.dropWhile isDigit).head? = some '.'
      · obtain ⟨after, eq⟩ := List.head?_eq_some_iff.1 point
        rw [mantissa?_pointed (body.trans eq), some_left]
        refine ⟨_, _, _, if_neg (by simp), ?_⟩
        exact ((List.dropWhile_suffix _).trans (List.suffix_cons '.' after)).trans (eq ▸ dropped)
      · rw [mantissa?_plain (body ▸ point), some_left, body]
        exact ⟨_, _, _, if_neg (by simp), dropped⟩
  | pointed nonempty figures figures' =>
      have point : ∀ c ∈ ('.' :: (fraction ++ rest)).head?, isDigit c = false := by
        simp [marked '.' (by decide)]
      obtain ⟨taken, dropped⟩ := span_append figures point
      rw [List.append_assoc, List.cons_append, mantissa?_pointed dropped, taken,
        List.takeWhile_append_of_pos figures', List.dropWhile_append_of_pos figures',
        isEmpty_and_append nonempty]
      exact ⟨_, _, _, if_neg (by simp), List.dropWhile_suffix _⟩

/-- A mantissa is read and no more, if what follows does not go on with it. -/
lemma Mantissa.mantissa?_stop {whole fraction mantissa rest : List Char}
    (written : Mantissa isDigit whole fraction mantissa)
    (stops : ∀ c ∈ rest.head?, isDigit c = false ∧ c ≠ '.') :
    mantissa? isDigit (mantissa ++ rest) = some (whole, fraction, rest) := by
  have ends : ∀ c ∈ rest.head?, isDigit c = false := fun c first => (stops c first).1
  cases written with
  | plain nonempty figures =>
      obtain ⟨taken, dropped⟩ := span_append figures ends
      have plain : ((whole ++ rest).dropWhile isDigit).head? ≠ some '.' := by
        rw [dropped]
        exact fun point => (stops '.' point).2 rfl
      rw [mantissa?_plain plain, taken, dropped, if_neg (by simp [nonempty])]
  | pointed nonempty figures figures' =>
      have point : ∀ c ∈ ('.' :: (fraction ++ rest)).head?, isDigit c = false := by
        simp [marked '.' (by decide)]
      obtain ⟨taken, dropped⟩ := span_append figures point
      obtain ⟨taken', dropped'⟩ := span_append figures' ends
      have some_left := isEmpty_and_append nonempty []
      rw [List.append_nil] at some_left
      rw [List.append_assoc, List.cons_append, mantissa?_pointed dropped, taken, taken', dropped',
        some_left, if_neg (by simp)]

lemma scanExponent_given {mark : Char} {negative : Bool} {sign digits : List Char}
    (marks : mark = 'e' ∨ mark = 'E') (signed : Sign negative sign) (nonempty : digits ≠ [])
    (figures : ∀ c ∈ digits, isDigit c = true) (rest : List Char) :
    scanExponent isDigit (mark :: (sign ++ (digits ++ rest)))
      = (some (negative, digits ++ rest.takeWhile isDigit), rest.dropWhile isDigit) := by
  have unsigned := unsigned_of_digits marked nonempty figures rest
  have some_left : (digits ++ rest.takeWhile isDigit).isEmpty = false := by simp [nonempty]
  rw [scanExponent, signed.takeSign_append unsigned]
  dsimp only
  rw [List.takeWhile_append_of_pos figures, List.dropWhile_append_of_pos figures,
    if_pos ⟨marks, some_left⟩]

/-- An exponent does not go on with the mantissa before it. -/
lemma mark_stops {mark : Char} (marks : mark = 'e' ∨ mark = 'E') (rest : List Char) :
    ∀ c ∈ (mark :: rest).head?, isDigit c = false ∧ c ≠ '.' := by
  intro c first
  obtain rfl : mark = c := by simpa using first
  rcases marks with rfl | rfl
  · exact ⟨marked 'e' (by decide), by decide⟩
  · exact ⟨marked 'E' (by decide), by decide⟩

/-- **With any text after it, a numeral is read at least as far as it goes.** -/
lemma Written.scan_append {n : Numeral} {numeral : List Char} (written : Written isDigit n numeral)
    (rest : List Char) :
    ∃ n' rest', scan isDigit (numeral ++ rest) = some (n', rest') ∧ rest' <:+ rest := by
  obtain ⟨signed, before, after⟩ := written
  cases after with
  | absent =>
      obtain ⟨whole, fraction, rest', read, left⟩ := before.mantissa?_append marked rest
      obtain ⟨power, eq, -⟩ := scanExponent_sound isDigit rest'
      have suffix : (scanExponent isDigit rest').2 <:+ rest' := ⟨power, eq.symm⟩
      rw [List.append_nil, List.append_assoc, scan_eq,
        signed.takeSign_append (before.unsigned marked rest), read]
      exact ⟨_, _, rfl, suffix.trans left⟩
  | given marks signed' nonempty figures =>
      rw [List.append_assoc, List.append_assoc, List.cons_append, List.append_assoc, scan_eq,
        signed.takeSign_append (before.unsigned marked _),
        before.mantissa?_stop marked (mark_stops marked marks _), Option.map_some,
        scanExponent_given marked marks signed' nonempty figures]
      exact ⟨_, _, rfl, List.dropWhile_suffix _⟩

/-- A text is at most one numeral, the one that is read. -/
lemma Written.scan_eq {n : Numeral} {numeral : List Char} (written : Written isDigit n numeral) :
    scan isDigit numeral = some (n, []) := by
  obtain ⟨signed, before, after⟩ := written
  rw [Numeral.scan_eq, signed.takeSign_append (before.unsigned marked _)]
  cases after with
  | absent =>
      rw [before.mantissa?_stop marked (by simp)]
      rfl
  | given marks signed' nonempty figures =>
      have read := scanExponent_given marked marks signed' nonempty figures []
      rw [before.mantissa?_stop marked (mark_stops marked marks _), Option.map_some]
      simp only [List.append_nil, List.takeWhile_nil, List.dropWhile_nil] at read
      rw [read]

/-- **The scanner finds the longest numeral in front of a text.** -/
theorem scan_eq_some {text rest : List Char} {n : Numeral} : scan isDigit text = some (n, rest)
    ↔ ∃ numeral, text = numeral ++ rest ∧ Written isDigit n numeral
      ∧ Longest (language isDigit) text numeral := by
  constructor
  · intro found
    obtain ⟨numeral, rfl, written⟩ := scan_sound found
    refine ⟨numeral, rfl, written, List.prefix_append .., ⟨n, written⟩, ?_⟩
    rintro other ⟨rest', eq⟩ ⟨n', written'⟩
    obtain ⟨n'', rest'', found', left⟩ := written'.scan_append marked rest'
    rw [eq, found] at found'
    obtain ⟨-, rfl⟩ := Prod.mk.inj (Option.some.inj found')
    have lengths := congrArg List.length eq
    simp only [List.length_append] at lengths
    have shorter := left.length_le
    omega
  · rintro ⟨numeral, rfl, written, longest⟩
    obtain ⟨n', rest', found, left⟩ := written.scan_append marked rest
    obtain ⟨numeral', eq, written'⟩ := scan_sound found
    -- What is read is no shorter, and it cannot be longer.
    have lengths := congrArg List.length eq
    have no_longer := longest.longest numeral' ⟨rest', eq.symm⟩ ⟨n', written'⟩
    have no_shorter := left.length_le
    simp only [List.length_append] at lengths
    obtain ⟨rfl, rfl⟩ := List.append_inj eq (by omega)
    have same := (written.scan_eq marked).symm.trans (written'.scan_eq marked)
    obtain ⟨rfl, -⟩ := Prod.mk.inj (Option.some.inj same)
    exact found

/-- **It finds nothing only if there is none.** -/
theorem scan_eq_none {text : List Char} :
    scan isDigit text = none ↔ ∀ numeral, numeral <+: text → ¬ language isDigit numeral := by
  constructor
  · rintro nothing numeral ⟨rest, rfl⟩ ⟨n, written⟩
    obtain ⟨n', rest', found, -⟩ := written.scan_append marked rest
    rw [nothing] at found
    cases found
  · intro absent
    by_contra present
    obtain ⟨⟨n, rest⟩, found⟩ := Option.ne_none_iff_exists'.1 present
    obtain ⟨numeral, rfl, written⟩ := scan_sound found
    exact absent numeral (List.prefix_append ..) ⟨n, written⟩

/-! ## The digits of a numeral -/

lemma Sign.filter_eq {negative : Bool} {sign : List Char} (signed : Sign negative sign) :
    sign.filter isDigit = [] := by
  cases signed with
  | absent => rfl
  | plus => simp [marked '+' (by decide)]
  | minus => simp [marked '-' (by decide)]

lemma Mantissa.filter_eq {whole fraction mantissa : List Char}
    (written : Mantissa isDigit whole fraction mantissa) :
    mantissa.filter isDigit = whole ++ fraction := by
  cases written with
  | plain nonempty figures => rw [List.filter_eq_self.2 figures, List.append_nil]
  | pointed nonempty figures figures' =>
      rw [List.filter_append, List.filter_cons_of_neg (by simp [marked '.' (by decide)]),
        List.filter_eq_self.2 figures, List.filter_eq_self.2 figures']

lemma Exponent.filter_eq {exponent : Option (Bool × List Char)} {power : List Char}
    (written : Exponent isDigit exponent power) :
    power.filter isDigit = exponent.elim [] Prod.snd := by
  cases written with
  | absent => rfl
  | given marks signed nonempty figures =>
      have mark := (mark_stops marked marks [] _ rfl).1
      rw [List.filter_cons_of_neg (by simp [mark]), List.filter_append,
        Sign.filter_eq marked signed, List.filter_eq_self.2 figures, List.nil_append]
      rfl

/-- A numeral has a value if there are only ASCII digits in it. -/
lemma Written.isAscii_iff {n : Numeral} {numeral : List Char}
    (written : Written isDigit n numeral) :
    n.isAscii = true ↔ ∀ c ∈ numeral, isDigit c = true → Text.isAsciiDigit c = true := by
  have digits : numeral.filter isDigit = n.whole ++ n.fraction ++ n.exponent.elim [] Prod.snd := by
    obtain ⟨signed, before, after⟩ := written
    rw [List.filter_append, List.filter_append, Sign.filter_eq marked signed,
      before.filter_eq marked, after.filter_eq marked, List.nil_append]
  have ascii : n.isAscii = true ↔ ∀ c ∈ numeral.filter isDigit, Text.isAsciiDigit c = true := by
    rw [digits, ← List.all_eq_true, List.all_append, List.all_append, isAscii]
    cases n.exponent <;> rfl
  simp only [ascii, List.mem_filter, and_imp]

end

end Numeral

end SaleSearch.Number
