import Mathlib
import SourceLens.Json.Reader
import SourceLens.Json.Writer

/-!
# Strings and integers that are read back

The writer gives a string in ASCII: characters of the basic plane beyond it as
one escape, all others as a surrogate pair. The reader takes both for the
character again, whatever stands behind the string (`readString_string`).

An integer is its decimal digits behind a sign. The reader takes the longest
run of digits, so it stops where the integer ends unless a digit stands behind
it, and it takes the number for an integer unless it goes on with a fraction or
an exponent (`readScalar_int`).
-/

namespace SourceLens.Json

open Writer Reader

/-! ## Blanks -/

/-- Blanks are skipped. -/
theorem skipSpace_append {blank : List Char} (h : ∀ c ∈ blank, isSpace c = true)
    (rest : List Char) : skipSpace (blank ++ rest) = skipSpace rest := by
  induction blank with
  | nil => rfl
  | cons c blank ih =>
    rw [List.cons_append, skipSpace, if_pos (h c List.mem_cons_self)]
    exact ih fun d hd => h d (List.mem_cons_of_mem c hd)

/-- What is no blank is not skipped. -/
theorem skipSpace_cons {c : Char} (h : isSpace c = false) (rest : List Char) :
    skipSpace (c :: rest) = c :: rest := by
  rw [skipSpace, if_neg (by rw [h]; exact Bool.false_ne_true)]

/-! ## Code units -/

theorem hexValue?_hexDigit : ∀ v < 16, hexValue? (Quoted.hexDigit v) = some v := by decide

/-- A code unit as four digits. -/
theorem hexDigits_four (n : Nat) : Quoted.hexDigits 4 n
    = [Quoted.hexDigit (n / 16 / 16 / 16 % 16), Quoted.hexDigit (n / 16 / 16 % 16),
      Quoted.hexDigit (n / 16 % 16), Quoted.hexDigit (n % 16)] := rfl

/-- Four digits are read as the code unit that they are written for. -/
theorem hexValues?_hexDigit {n : Nat} (h : n < 0x10000) :
    hexValues? (Quoted.hexDigit (n / 16 / 16 / 16 % 16)) (Quoted.hexDigit (n / 16 / 16 % 16))
      (Quoted.hexDigit (n / 16 % 16)) (Quoted.hexDigit (n % 16)) = some n := by
  have hdigit : ∀ m, hexValue? (Quoted.hexDigit (m % 16)) = some (m % 16) :=
    fun m => hexValue?_hexDigit _ (Nat.mod_lt m (by decide))
  unfold hexValues?
  rw [hdigit, hdigit, hdigit, hdigit]
  show some _ = some n
  congr 1
  omega

variable {opening : Nat} {read : List Char} {next : Char} {rest : List Char}

/-- A code unit that is no first half of a pair is a character. -/
theorem readString_escapeUnit {code : Nat} (h : code < 0x10000)
    (hhigh : isHighSurrogate code = false) :
    readString opening read (escapeUnit code ++ next :: rest)
      = readString opening (ofUnit code :: read) (next :: rest) := by
  rw [escapeUnit, hexDigits_four]
  simp only [List.cons_append, List.nil_append]
  rw [readString, hexValues?_hexDigit h]
  dsimp only
  rw [if_neg (by rw [hhigh]; exact Bool.false_ne_true)]

/-- Two halves are the character of the pair. -/
theorem readString_escapePair {high low : Nat} (hhigh : isHighSurrogate high = true)
    (hlow : isLowSurrogate low = true) :
    readString opening read (escapeUnit high ++ (escapeUnit low ++ next :: rest))
      = readString opening (ofPair high low :: read) (next :: rest) := by
  have hlimits : high < 0x10000 ∧ low < 0x10000 := by
    simp only [isHighSurrogate, isLowSurrogate, Bool.and_eq_true, decide_eq_true_eq] at hhigh hlow
    omega
  rw [escapeUnit, escapeUnit, hexDigits_four, hexDigits_four]
  simp only [List.cons_append, List.nil_append]
  rw [readString, hexValues?_hexDigit hlimits.1]
  dsimp only
  rw [if_pos hhigh]
  simp only [hexValues?_hexDigit hlimits.2, hlow, if_true]

/-! ## Strings -/

/-- No character is half of a surrogate pair. -/
theorem toNat_bounds (c : Char) :
    c.toNat < 0xD800 ∨ 0xDFFF < c.toNat ∧ c.toNat < 0x110000 := c.valid

/-- A letter after a backslash is the character that it stands for. -/
theorem readString_letter {letter c : Char} (hu : letter ≠ 'u') (h : escaped? letter = some c) :
    readString opening read ('\\' :: letter :: rest)
      = readString opening (c :: read) rest := by
  rw [readString, h]
  all_goals first | exact fun _ => hu ‹_› | exact fun _ _ _ _ _ _ heq _ => hu heq

/-- **An escaped character is read as the character**, if anything stands behind
it. -/
theorem readString_escapeChar (c : Char) :
    readString opening read (escapeChar c ++ next :: rest)
      = readString opening (c :: read) (next :: rest) := by
  have hbounds := toNat_bounds c
  unfold escapeChar
  iterate 7
    split
    · rename_i h
      rw [beq_iff_eq.mp h]
      exact readString_letter (by decide) rfl
  rename_i hquote hbackslash _ _ _ _ _
  dsimp only
  split
  · -- a character of ASCII stands for itself
    rename_i hvisible
    rw [Bool.and_eq_true, decide_eq_true_eq, decide_eq_true_eq] at hvisible
    have hb : c ≠ '\\' := fun heq => hbackslash (beq_iff_eq.mpr heq)
    rw [List.singleton_append, readString, if_neg (by omega)]
    · exact fun heq => hquote (beq_iff_eq.mpr heq)
    · exact fun heq _ => hb heq
    · exact fun _ _ _ _ _ _ heq _ => hb heq
    · exact fun _ heq _ => hb heq
    · exact fun _ _ heq _ => hb heq
  · split
    · -- a character of the basic plane is one code unit
      rename_i hbasic
      have hhigh : isHighSurrogate c.toNat = false := by
        simp only [isHighSurrogate, Bool.and_eq_false_iff, decide_eq_false_iff_not]
        omega
      have hlow : isLowSurrogate c.toNat = false := by
        simp only [isLowSurrogate, Bool.and_eq_false_iff, decide_eq_false_iff_not]
        omega
      have hunit : ofUnit c.toNat = c := by
        rw [ofUnit, hhigh, hlow]
        exact Char.ofNat_toNat c
      rw [readString_escapeUnit hbasic hhigh, hunit]
    · -- any other is a pair of them
      rename_i hbeyond
      have hhigh : isHighSurrogate (0xD800 + (c.toNat - 0x10000) / 0x400) = true := by
        simp only [isHighSurrogate, Bool.and_eq_true, decide_eq_true_eq]
        omega
      have hlow : isLowSurrogate (0xDC00 + (c.toNat - 0x10000) % 0x400) = true := by
        simp only [isLowSurrogate, Bool.and_eq_true, decide_eq_true_eq]
        omega
      have hpair : ofPair (0xD800 + (c.toNat - 0x10000) / 0x400)
          (0xDC00 + (c.toNat - 0x10000) % 0x400) = c := by
        have hcode : 0x10000 + (0xD800 + (c.toNat - 0x10000) / 0x400 - 0xD800) * 0x400
            + (0xDC00 + (c.toNat - 0x10000) % 0x400 - 0xDC00) = c.toNat := by omega
        rw [ofPair, hcode]
        exact Char.ofNat_toNat c
      rw [List.append_assoc, readString_escapePair hhigh hlow, hpair]

/-- The rest of a string up to its closing quote. -/
theorem readString_closed (cs : List Char) :
    readString opening read (cs.flatMap escapeChar ++ '"' :: rest)
      = .ok (String.ofList (read.reverse ++ cs), rest) := by
  induction cs generalizing read with
  | nil => rw [List.flatMap_nil, List.nil_append, readString, List.append_nil]
  | cons c cs ih =>
    -- behind an escaped character stands another one, or the closing quote
    obtain ⟨next, later, hbehind⟩ : ∃ next later,
        cs.flatMap escapeChar ++ '"' :: rest = next :: later := by
      cases hcs : cs.flatMap escapeChar with
      | nil => exact ⟨_, _, rfl⟩
      | cons d ds => exact ⟨_, _, rfl⟩
    rw [List.flatMap_cons, List.append_assoc, hbehind, readString_escapeChar, ← hbehind, ih,
      List.reverse_cons, List.append_assoc]
    rfl

/-- **A string is read back**, with anything behind it. The opening quote has
been read. -/
theorem readString_string (s : String) (rest : List Char) :
    readString opening [] ((string s).tail ++ rest) = .ok (s, rest) := by
  have htail : (string s).tail ++ rest = s.toList.flatMap escapeChar ++ '"' :: rest := by
    simp [string]
  rw [htail, readString_closed, List.reverse_nil, List.nil_append, String.ofList_toList]

/-! ## Integers -/

/-- No digit stands first, and nothing that an integer could go on with. -/
def Delimited (rest : List Char) : Prop :=
  ∀ c ∈ rest.head?, c.isDigit = false ∧ c ≠ '.' ∧ c ≠ 'e' ∧ c ≠ 'E'

/-- The digits up to the first character that is none. -/
theorem readDigits_append {digits : List Char} (h : ∀ c ∈ digits, c.isDigit = true)
    (hrest : Delimited rest) (count value : Nat) : readDigits count value (digits ++ rest)
      = (count + digits.length, Nat.ofDigitChars 10 digits value, rest) := by
  induction digits generalizing count value with
  | nil =>
    cases rest with
    | nil => rfl
    | cons c rest =>
      have hc := (hrest c rfl).1
      rw [List.nil_append, readDigits, if_neg (by rw [hc]; exact Bool.false_ne_true)]
      rfl
  | cons d digits ih =>
    have hvalue : value * 10 + (d.toNat - 0x30) = 10 * value + (d.toNat - '0'.toNat) := by
      rw [Nat.mul_comm]
      rfl
    rw [List.cons_append, readDigits, if_pos (h d List.mem_cons_self),
      ih fun c hc => h c (List.mem_cons_of_mem d hc), List.length_cons, hvalue,
      Nat.ofDigitChars_cons, Nat.add_assoc, Nat.add_comm 1]

/-- A number starts with a digit. -/
theorem exists_toDigits_eq_cons (n : Nat) :
    ∃ d digits, Nat.toDigits 10 n = d :: digits ∧ d.isDigit = true := by
  cases hdigits : Nat.toDigits 10 n with
  | nil => exact absurd hdigits Nat.toDigits_ne_nil
  | cons d digits =>
    exact ⟨d, digits, rfl, Nat.isDigit_of_mem_toDigits (by decide : 0 < 10) (by decide)
      (hdigits ▸ List.mem_cons_self)⟩

/-- Only zero is written with a zero first. -/
theorem head?_toDigits_ne {n : Nat} (hpos : 0 < n) : ∀ c ∈ (Nat.toDigits 10 n).head?, c ≠ '0' := by
  induction n using Nat.strong_induction_on with
  | _ n ih =>
    obtain hlt | hle := Nat.lt_or_ge n 10
    · have hdigit : ∀ m < 10, 0 < m → Nat.digitChar m ≠ '0' := by decide
      rw [Nat.toDigits_of_lt_base hlt]
      rintro c ⟨⟩
      exact hdigit n hlt hpos
    · rw [Nat.toDigits_of_base_le (by decide) hle]
      have hfirst := ih (n / 10) (by omega) (by omega)
      cases hdigits : Nat.toDigits 10 (n / 10) with
      | nil => exact absurd hdigits Nat.toDigits_ne_nil
      | cons d digits =>
        rw [hdigits] at hfirst
        exact hfirst

/-- The digits of a number are read to their end. -/
theorem readWhole_toDigits (n : Nat) (hrest : Delimited rest) :
    readWhole (Nat.toDigits 10 n ++ rest) = ((Nat.toDigits 10 n).length, n, rest) := by
  obtain rfl | hpos := Nat.eq_zero_or_pos n
  · rfl
  · have hfirst := head?_toDigits_ne hpos
    have hdigits : ∀ c ∈ Nat.toDigits 10 n, c.isDigit = true :=
      fun c hc => Nat.isDigit_of_mem_toDigits (by decide) (by decide) hc
    have hall := readDigits_append hdigits hrest 0 0
    rw [Nat.zero_add, Nat.ofDigitChars_toDigits (by decide) (by decide)] at hall
    unfold readWhole
    split
    · rename_i after heq
      cases hfront : Nat.toDigits 10 n with
      | nil => exact absurd hfront Nat.toDigits_ne_nil
      | cons d digits =>
        rw [hfront] at heq hfirst
        exact absurd (List.cons.inj heq).1 (hfirst d rfl)
    · exact hall

/-- A number does not go on where it is delimited. -/
theorem readFraction_of_delimited (n : Nat) (h : Delimited rest) :
    readFraction n rest = (0, n, rest) := by
  unfold readFraction
  split
  · exact absurd rfl (h '.' rfl).2.1
  · rfl

theorem readExponent_of_delimited (h : Delimited rest) : readExponent rest = (none, rest) := by
  unfold readExponent
  cases rest with
  | nil => rfl
  | cons c rest =>
    obtain ⟨-, -, he, hE⟩ := h c rfl
    dsimp only
    rw [if_neg (by simp [he, hE])]

/-- **The digits of a number are read as the integer**, if there are not too
many. -/
theorem readNumber_toDigits (negative : Bool) (whole : List Char) {n : Nat}
    (h : n < 10 ^ mostDigits) (hrest : Delimited rest) :
    readNumber negative whole (Nat.toDigits 10 n ++ rest)
      = .ok (.int (if negative then -(n : Int) else n), rest) := by
  have hlength : (Nat.toDigits 10 n).length ≤ mostDigits :=
    (Nat.length_toDigits_le_iff (by decide) (by decide)).mpr h
  unfold readNumber
  rw [readWhole_toDigits n hrest]
  dsimp only
  rw [if_neg (by simp), readFraction_of_delimited n hrest]
  dsimp only
  rw [readExponent_of_delimited hrest]
  dsimp only
  rw [if_pos (by rfl), if_neg (by omega)]

/-- A word is not there if another character stands first. -/
theorem skipWord?_of_ne {w c : Char} (h : w ≠ c) (word rest : List Char) :
    skipWord? (w :: word) (c :: rest) = none := by
  rw [skipWord?, if_neg (by simpa using h)]

/-- No value that is a word starts with a digit, nor with a sign and a digit. -/
theorem findSome?_words_digit {d : Char} (h : d.isDigit = true) (rest : List Char) :
    (words.findSome? fun (word, value) => (skipWord? word (d :: rest)).map (value, ·)) = none ∧
    (words.findSome? fun (word, value) => (skipWord? word ('-' :: d :: rest)).map (value, ·))
      = none := by
  have hne : ∀ w ∈ ['n', 't', 'f', 'N', 'I', '-'], w ≠ d := by
    rintro w hw rfl
    revert h
    fin_cases hw <;> decide
  simp only [List.forall_mem_cons] at hne
  obtain ⟨hn, ht, hf, hN, hI, hminus, -⟩ := hne
  constructor
  · simp [words, skipWord?_of_ne, hn, ht, hf, hN, hI, hminus]
  · simp [words, skipWord?, hI]

/-- An integer starts with its sign or a digit. -/
theorem exists_toList_toString (n : Int) :
    ∃ c rest, (toString n).toList = c :: rest ∧ (c = '-' ∨ c.isDigit = true) := by
  have htext : toString n = n.repr := rfl
  rw [htext, Int.repr_eq_if]
  split
  · rw [Nat.repr_eq_ofList_toDigits, String.toList_ofList]
    obtain ⟨d, digits, hdigits, hd⟩ := exists_toDigits_eq_cons n.toNat
    exact ⟨d, digits, hdigits, Or.inr hd⟩
  · rw [String.toList_append]
    exact ⟨'-', _, rfl, Or.inl rfl⟩

/-- **An integer is read back** where nothing stands behind it that it could go
on with. -/
theorem readScalar_int {n : Int} (h : n.natAbs < 10 ^ mostDigits) (hrest : Delimited rest) :
    readScalar ((toString n).toList ++ rest) = .ok (.int n, rest) := by
  have htext : toString n = n.repr := rfl
  rw [htext, Int.repr_eq_if]
  split
  · rename_i hnonneg
    obtain ⟨d, digits, hdigits, hd⟩ := exists_toDigits_eq_cons n.toNat
    have hnumber := readNumber_toDigits false (d :: (digits ++ rest))
      (by omega : n.toNat < 10 ^ mostDigits) hrest
    rw [Nat.repr_eq_ofList_toDigits, String.toList_ofList]
    rw [hdigits, List.cons_append] at hnumber ⊢
    unfold readScalar
    rw [(findSome?_words_digit hd _).1]
    dsimp only
    split
    · rename_i heq
      rw [(List.cons.inj heq).1] at hd
      cases hd
    · rw [hnumber, if_neg Bool.false_ne_true, Int.toNat_of_nonneg hnonneg]
  · rename_i hneg
    obtain ⟨d, digits, hdigits, hd⟩ := exists_toDigits_eq_cons (-n).toNat
    have hnumber := readNumber_toDigits true ('-' :: d :: (digits ++ rest))
      (by omega : (-n).toNat < 10 ^ mostDigits) hrest
    have hminus : ("-" ++ (-n).toNat.repr).toList ++ rest
        = '-' :: (Nat.toDigits 10 (-n).toNat ++ rest) := by
      rw [String.toList_append, Nat.repr_eq_ofList_toDigits, String.toList_ofList,
        String.toList_ofList]
      rfl
    rw [hminus]
    rw [hdigits, List.cons_append] at hnumber ⊢
    unfold readScalar
    rw [(findSome?_words_digit hd _).2]
    show readNumber true _ (d :: (digits ++ rest)) = _
    rw [hnumber, if_pos rfl, Int.toNat_of_nonneg (by omega), Int.neg_neg]

end SourceLens.Json
