import Mathlib.Data.List.Chain

/-!
# Alphabets of statements

The characters that statements are made of, sorted by where they may stand.

* `isCode` are the characters of names and of numbers without a sign, `isFrame` those of the text
  around values.
* `isHarmless` are the printable ASCII characters that neither end a statement nor quote, escape or
  comment; the other two alphabets lie inside, `isHarmless_of_isFrame`.
* `Tame` texts are harmless, hold no `--`, and can be put one after the other without forming one,
  `Tame.append`.
* `Stops` texts do not go on with a word of an alphabet, and `word_append_inj` cuts the words off
  two texts that are equal.
-/

namespace SaleSearch.Text

/-- The characters of names, codes, hashes and numbers without a sign. -/
def isCode (c : Char) : Bool :=
  c.isAlphanum || c == '.'

/-- The characters of the text between values. -/
def isFrame (c : Char) : Bool :=
  c.isAlphanum || [' ', '_', '.', ',', '*', '(', ')', '<', '>', '='].contains c

/-- Characters with a meaning of their own in a statement, apart from the single quote. -/
def special : List Char :=
  [';', '\\', '/', '#', '"', '\x60', '\x7b', '\x7d']

/-- Printable ASCII without the `special` characters. -/
def isHarmless (c : Char) : Bool :=
  ' ' ≤ c && c ≤ '~' && !special.contains c

/-- The ASCII letters and digits by code point. -/
lemma isAlphanum_iff {c : Char} : c.isAlphanum = true ↔
    65 ≤ c.toNat ∧ c.toNat ≤ 90 ∨ 97 ≤ c.toNat ∧ c.toNat ≤ 122 ∨ 48 ≤ c.toNat ∧ c.toNat ≤ 57 := by
  have upper : c.isUpper = true ↔ 65 ≤ c.toNat ∧ c.toNat ≤ 90 := decide_eq_true_iff
  have lower : c.isLower = true ↔ 97 ≤ c.toNat ∧ c.toNat ≤ 122 := by
    show (decide (c.val ≥ 'a'.val) && decide (c.val ≤ 'z'.val)) = true ↔ _
    rw [Bool.and_eq_true, decide_eq_true_iff, decide_eq_true_iff]
    exact Iff.rfl
  have digit : c.isDigit = true ↔ 48 ≤ c.toNat ∧ c.toNat ≤ 57 := by
    show (decide (c.val ≥ '0'.val) && decide (c.val ≤ '9'.val)) = true ↔ _
    rw [Bool.and_eq_true, decide_eq_true_iff, decide_eq_true_iff]
    exact Iff.rfl
  show (c.isUpper || c.isLower || c.isDigit) = true ↔ _
  rw [Bool.or_eq_true, Bool.or_eq_true, upper, lower, digit, or_assoc]

/-- The alphabet `isCode` lies inside `isFrame`. -/
lemma isFrame_of_isCode {c : Char} (h : isCode c = true) : isFrame c = true := by
  rcases Bool.or_eq_true_iff.1 h with h | h
  · simp [isFrame, h]
  · rw [beq_iff_eq.1 h]
    decide

/-- A character is not one that its alphabet leaves out. -/
lemma ne_of_alphabet {p : Char → Bool} {c d : Char} (hc : p c = true) (hd : p d = false) :
    c ≠ d := by
  rintro rfl
  rw [hc] at hd
  cases hd

/-- The alphabet `isFrame` lies inside `isHarmless`. -/
lemma isHarmless_of_isFrame {c : Char} (h : isFrame c = true) : isHarmless c = true := by
  have unspecial : special.contains c = false := by
    by_contra hspecial
    have outside : special.all (fun d => !isFrame d) = true := by decide
    have hc := List.all_eq_true.1 outside c (by simpa using hspecial)
    simp [h] at hc
  have printable : ' ' ≤ c ∧ c ≤ '~' := by
    rcases Bool.or_eq_true_iff.1 h with hc | hc
    · have bounds := isAlphanum_iff.1 hc
      have low : (' ' : Char).toNat ≤ c.toNat := show 32 ≤ c.toNat by omega
      have high : c.toNat ≤ ('~' : Char).toNat := show c.toNat ≤ 126 by omega
      exact ⟨low, high⟩
    · have inside : [' ', '_', '.', ',', '*', '(', ')', '<', '>', '='].all
          (fun d => decide (' ' ≤ d ∧ d ≤ '~')) = true := by decide
      simpa using List.all_eq_true.1 inside c (by simpa using hc)
  simp only [isHarmless, unspecial, printable, decide_true, Bool.not_false, Bool.and_self]

/-! ## Texts -/

/-- A text over an alphabet. -/
def Over (p : Char → Bool) (text : String) : Prop :=
  text.toList.all p = true

instance (p : Char → Bool) : DecidablePred (Over p) := fun text =>
  inferInstanceAs (Decidable (text.toList.all p = true))

@[simp] lemma over_empty (p : Char → Bool) : Over p "" :=
  rfl

@[simp] lemma over_append {p : Char → Bool} {a b : String} :
    Over p (a ++ b) ↔ Over p a ∧ Over p b := by
  simp [Over, String.toList_append, List.all_append]

lemma over_iff {p : Char → Bool} {text : String} : Over p text ↔ ∀ c ∈ text.toList, p c = true :=
  List.all_eq_true

/-- Parts over an alphabet with a separator over it are over it together. -/
lemma over_intercalate {p : Char → Bool} {separator : String} {parts : List String}
    (over_separator : Over p separator) (over_parts : ∀ part ∈ parts, Over p part) :
    Over p (separator.intercalate parts) := by
  induction parts with
  | nil => rfl
  | cons part rest ih =>
      have over_rest := ih fun other hother => over_parts other (by simp [hother])
      by_cases last : rest = []
      · rw [last, String.intercalate_singleton]
        exact over_parts part (by simp)
      · rw [String.intercalate_cons_of_ne_nil last]
        simp only [over_append]
        exact ⟨⟨over_parts part (by simp), over_separator⟩, over_rest⟩

/-- A text of the alphabet around values. -/
abbrev Framed : String → Prop :=
  Over isFrame

/-- Two characters that do not begin a comment. -/
abbrev NoComment (x y : Char) : Prop :=
  ¬ (x = '-' ∧ y = '-')

/-- A text that can stand in a statement outside of quotes without ending it or beginning a
comment. -/
structure Tame (text : List Char) : Prop where
  harmless : ∀ c ∈ text, isHarmless c = true
  chain : text.IsChain NoComment
  /-- What comes next may begin with a hyphen. -/
  last : ∀ c ∈ text.getLast?, c ≠ '-'

lemma Tame.nil : Tame [] where
  harmless := by simp
  chain := .nil
  last := by simp

/-- Two tame texts are tame together, as the first does not end in a hyphen. -/
lemma Tame.append {a b : List Char} (ha : Tame a) (hb : Tame b) : Tame (a ++ b) where
  harmless c hc := (List.mem_append.1 hc).elim (ha.harmless c) (hb.harmless c)
  chain := List.isChain_append.2
    ⟨ha.chain, hb.chain, fun x hx _ _ hyphens => ha.last x hx hyphens.1⟩
  last c hc := by
    cases b with
    | nil => exact ha.last c (by simpa using hc)
    | cons d rest => exact hb.last c (by simpa using hc)

/-- A harmless text without hyphens is tame. -/
lemma Tame.of_no_hyphen {text : List Char} (harmless : ∀ c ∈ text, isHarmless c = true)
    (no_hyphen : ∀ c ∈ text, c ≠ '-') : Tame text where
  harmless := harmless
  chain := by
    induction text with
    | nil => exact .nil
    | cons c rest ih =>
        refine List.isChain_cons.2 ⟨fun d _ hyphens => no_hyphen c (by simp) hyphens.1, ?_⟩
        exact ih (fun d hd => harmless d (by simp [hd])) fun d hd => no_hyphen d (by simp [hd])
  last c hc := no_hyphen c (List.mem_of_getLast? hc)

/-- A text over `isFrame` is tame. -/
lemma Tame.of_frame {text : List Char} (h : ∀ c ∈ text, isFrame c = true) : Tame text :=
  .of_no_hyphen (fun c hc => isHarmless_of_isFrame (h c hc))
    fun c hc => ne_of_alphabet (h c hc) (by decide)

/-- A tame text holds no `--`. -/
lemma Tame.no_infix {text : List Char} (h : Tame text) : ¬ ['-', '-'] <:+: text := by
  rintro ⟨before, after, rfl⟩
  have middle := (List.isChain_append.1 (List.isChain_append.1 h.chain).1).2.1
  simp at middle

/-! ## Words in front of a text

A word of some alphabet can be cut off in one way only if what follows it begins outside the
alphabet, or is empty. -/

/-- Every character but one. -/
def allBut (d c : Char) : Bool :=
  c != d

/-- A text over an alphabet does not hold a character outside of it. -/
lemma Over.allBut {p : Char → Bool} {text : String} (h : Over p text) {d : Char}
    (outside : p d = false) : Over (allBut d) text := by
  refine over_iff.2 fun c hc => ?_
  simpa [Text.allBut] using ne_of_alphabet (over_iff.1 h c hc) outside

/-- A text that does not go on with a word. -/
def Stops (p : Char → Bool) (text : String) : Prop :=
  text.toList.head?.all (fun c => !p c) = true

/-- A text stops a word if its first part does, which must not be empty. -/
lemma stops_append {p : Char → Bool} {a b : String}
    (h : a.toList.head?.any (fun c => !p c) = true) : Stops p (a ++ b) := by
  unfold Stops
  cases chars : a.toList with
  | nil => simp [chars] at h
  | cons c rest => simpa [String.toList_append, chars] using h

/-- A word is what `takeWhile` takes off a text that goes on with something else. -/
lemma takeWhile_word {p : Char → Bool} {word rest : String} (h : Over p word)
    (stops : Stops p rest) : (word ++ rest).toList.takeWhile p = word.toList := by
  rw [String.toList_append, List.takeWhile_append_of_pos (over_iff.1 h)]
  have none : rest.toList.takeWhile p = [] := by
    unfold Stops at stops
    cases chars : rest.toList with
    | nil => rfl
    | cons c others => exact List.takeWhile_cons_of_neg (by simpa [chars] using stops)
  rw [none, List.append_nil]

/-- If two texts are equal and each is a word and something that stops it, the words are equal and
so is what follows. -/
theorem word_append_inj {p : Char → Bool} {a b r s : String} (over_a : Over p a) (over_b : Over p b)
    (stops_r : Stops p r) (stops_s : Stops p s) (h : a ++ r = b ++ s) : a = b ∧ r = s := by
  have words : a.toList = b.toList := by
    rw [← takeWhile_word over_a stops_r, h, takeWhile_word over_b stops_s]
  obtain rfl := String.toList_inj.1 words
  exact ⟨rfl, (String.append_right_inj a).1 h⟩

end SaleSearch.Text
