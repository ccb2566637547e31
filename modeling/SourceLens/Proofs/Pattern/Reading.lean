import Mathlib.Data.List.Basic
import Mathlib.Tactic.Common
import SourceLens.Pattern.Parser
import SourceLens.Proofs.Except
import SourceLens.Proofs.Pattern.Renumber

/-!
# Reading with a parenthesis behind

A pattern is read by itself when its category is made, and a second time
inside the joined pattern of its language, where a closing parenthesis and
more stand behind it. This module says of every reader below the level of
groups that it reads the same there: what it has accepted, it accepts again,
with the same value, and leaves the parenthesis and all behind it unread.

Some readers do so whatever they read, since none of them takes a closing
parenthesis; those that can run into the end of the pattern have to have
accepted. The comment of a spaced pattern is the exception: with no line break
behind it, it takes the parenthesis as well.
-/

namespace SourceLens

namespace Pattern.Parser

variable {rest later : List Lexeme} (t : List Lexeme)

/-- Some lexemes with a closing parenthesis and more behind them. -/
def closed (rest t : List Lexeme) : List Lexeme :=
  rest ++ .plain ')' :: t

theorem closed_nil : closed [] t = .plain ')' :: t := rfl

theorem closed_cons (first : Lexeme) (rest : List Lexeme) :
    closed (first :: rest) t = first :: closed rest t := rfl

/-- A lexeme at the front, unless it is a parenthesis, is one of the pattern
itself. -/
theorem eq_cons_of_closed_eq {t : List Lexeme} {first : Lexeme} {rest later : List Lexeme}
    (hfirst : first ≠ .plain ')') (h : closed rest t = first :: later) :
    ∃ left, rest = first :: left ∧ later = closed left t := by
  cases rest with
  | nil => exact absurd (List.cons.inj h).1.symm hfirst
  | cons head rest =>
    obtain ⟨rfl, rfl⟩ := List.cons.inj h
    exact ⟨rest, rfl, rfl⟩

/-- What a reader gives with a parenthesis behind what it has left. -/
def behind {α : Type} (read : α × List Lexeme) : α × List Lexeme :=
  (read.1, closed read.2 t)

/-! ## Numbers -/

theorem digitValue?_close (base : Nat) : digitValue? base ')' = none := by
  simp [digitValue?]

/-- Digits end before a parenthesis. -/
theorem readDigits_closed (base limit count value : Nat) (rest : List Lexeme) :
    readDigits base limit count value (closed rest t)
      = ((readDigits base limit count value rest).1,
          behind t (readDigits base limit count value rest).2) := by
  induction limit generalizing count value rest with
  | zero => rfl
  | succ limit ih =>
    cases rest with
    | nil =>
      rw [closed_nil, readDigits, digitValue?_close]
      rfl
    | cons first rest =>
      cases first with
      | escaped c => rfl
      | plain c =>
        rw [closed_cons, readDigits, readDigits]
        cases digitValue? base c with
        | none => rfl
        | some digit => exact ih _ _ rest

/-- A limit beyond the lexemes there are does not matter. -/
theorem readDigits_of_length_le {base limit count value : Nat} {rest : List Lexeme}
    (h : rest.length ≤ limit) :
    readDigits base limit count value rest = readDigits base rest.length count value rest := by
  induction rest generalizing limit count value with
  | nil => cases limit <;> rfl
  | cons first rest ih =>
    cases limit with
    | zero => exact absurd h (Nat.not_succ_le_zero _)
    | succ limit =>
      cases first with
      | escaped c => rfl
      | plain c =>
        rw [List.length_cons, readDigits, readDigits]
        cases digitValue? base c with
        | none => rfl
        | some digit => exact ih (Nat.le_of_succ_le_succ h)

/-- All digits that there are end before a parenthesis. -/
theorem readDigits_length_closed (base count value : Nat) (rest : List Lexeme) :
    readDigits base (closed rest t).length count value (closed rest t)
      = ((readDigits base rest.length count value rest).1,
          behind t (readDigits base rest.length count value rest).2) := by
  have hle : rest.length ≤ (closed rest t).length := by
    rw [closed, List.length_append]
    exact Nat.le_add_right _ _
  rw [readDigits_closed, readDigits_of_length_le hle]

theorem readCode_closed (width : Nat) (letter : Char) (rest : List Lexeme) :
    readCode width letter (closed rest t) = (readCode width letter rest).map (behind t) := by
  unfold readCode
  rw [readDigits_closed]
  dsimp only [behind]
  rw [apply_ite (Except.map _)]
  rfl

theorem readCharacter_closed (c : Char) (rest : List Lexeme) :
    readCharacter c (closed rest t) = (readCharacter c rest).map (behind t) := by
  unfold readCharacter
  cases controlCode? c with
  | some code => rfl
  | none =>
    dsimp only
    split
    · exact readCode_closed t 2 _ rest
    · exact readCode_closed t 4 _ rest
    · exact readCode_closed t 8 _ rest
    · rw [apply_ite (Except.map _)]
      rfl

theorem readOctal_closed (c : Char) (rest : List Lexeme) :
    readOctal c (closed rest t) = (readOctal c rest).map (behind t) := by
  unfold readOctal
  cases digitValue? 8 c with
  | none => rfl
  | some first =>
    dsimp only
    rw [readDigits_closed]
    dsimp only [behind]
    rw [apply_ite (Except.map _)]
    rfl

/-! ## Sets -/

theorem map_behind {α β : Type} (f : α → β) (x : Except PatternError (α × List Lexeme)) :
    (x.map (behind t)).map (fun read => (f read.1, read.2))
      = (x.map fun read => (f read.1, read.2)).map (behind t) := by
  cases x <;> rfl

theorem readSetItem_closed (first : Lexeme) (rest : List Lexeme) :
    readSetItem first (closed rest t) = (readSetItem first rest).map (behind t) := by
  cases first with
  | plain c => rfl
  | escaped c =>
    unfold readSetItem
    split
    · rfl
    · rfl
    · cases kind? _ with
      | some item => rfl
      | none =>
        dsimp only
        rw [readOctal_closed, readCharacter_closed]
        split
        · exact map_behind t (fun code => CharItem.range code code) _
        · exact map_behind t (fun code => CharItem.range code code) _

/-- A set does not end at the end of the pattern. -/
theorem readSet_nil_ne (rounds : Nat) (items : List CharItem)
    (read : List CharItem × List Lexeme) : readSet rounds items [] ≠ .ok read := by
  intro h
  cases rounds <;> cases h

/-- A set does not end with a dash at the end of the pattern. -/
theorem readSet_dash_ne (rounds : Nat) (items : List CharItem)
    (read : List CharItem × List Lexeme) : readSet rounds items [.plain '-'] ≠ .ok read := by
  intro h
  cases rounds with
  | zero => cases h
  | succ rounds => exact readSet_nil_ne _ _ _ h

theorem readSet_closed {rounds rounds' : Nat} {items items' : List CharItem}
    {rest later : List Lexeme}
    (h : readSet rounds items rest = .ok (items', later)) (hrounds : rounds ≤ rounds') :
    readSet rounds' items (closed rest t) = .ok (items', closed later t) := by
  induction rounds generalizing rounds' items rest with
  | zero => cases h
  | succ rounds ih =>
    obtain ⟨more, rfl⟩ := Nat.exists_eq_add_of_lt hrounds
    have hmore : rounds ≤ rounds + more := Nat.le_add_right rounds more
    cases rest with
    | nil => cases h
    | cons first rest =>
      rw [closed_cons]
      unfold readSet at h ⊢
      dsimp only at h ⊢
      split at h
      · rename_i hend
        rw [if_pos hend]
        cases h
        rfl
      · rename_i hend
        rw [if_neg hend, readSetItem_closed]
        obtain ⟨⟨item, rest⟩, hitem, h⟩ := bind_eq_ok.mp h
        rw [hitem]
        refine bind_eq_ok.mpr ⟨(item, closed rest t), rfl, ?_⟩
        dsimp only at h ⊢
        split at h
        · -- a dash at the end of the set
          cases h
          rfl
        · -- a range
          rename_i second rest hsecond
          obtain ⟨⟨last, rest⟩, hlast, h⟩ := bind_eq_ok.mp h
          obtain ⟨range, hrange, h⟩ := bind_eq_ok.mp h
          rw [closed_cons, closed_cons]
          split
          · rename_i heq
            exact (hsecond (List.cons.inj (List.cons.inj heq).2).1).elim
          · rename_i heq
            obtain ⟨rfl, rfl⟩ := List.cons.inj (List.cons.inj heq).2
            rw [readSetItem_closed, hlast]
            refine bind_eq_ok.mpr ⟨(last, closed rest t), rfl, ?_⟩
            exact bind_eq_ok.mpr ⟨range, hrange, ih h hmore⟩
          · rename_i hother
            exact (hother _ _ rfl).elim
        · -- a single item; a parenthesis behind the set makes no range of it
          rename_i hend hrange
          rw [← ih h hmore]
          split
          · rename_i heq
            obtain ⟨left, rfl, hleft⟩ := eq_cons_of_closed_eq (by decide) heq
            obtain ⟨_, rfl, -⟩ := eq_cons_of_closed_eq (by decide) hleft.symm
            exact (hend _ rfl).elim
          · rename_i heq
            obtain ⟨left, rfl, -⟩ := eq_cons_of_closed_eq (by decide) heq
            cases left with
            | nil => exact absurd h (readSet_dash_ne _ _ _)
            | cons second left => exact (hrange second left rfl).elim
          · rfl

/-! ## Repetitions -/

/-- What the reader of bounds gives with a parenthesis behind what it has
left. -/
def boundsBehind (bounds : Option (Nat × Option Nat × List Lexeme)) :
    Option (Nat × Option Nat × List Lexeme) :=
  bounds.map fun (least, most, rest) => (least, most, closed rest t)

theorem readUpper_closed (lowCount low : Nat) (rest : List Lexeme) :
    readUpper lowCount low (closed rest t)
      = ((readUpper lowCount low rest).1, behind t (readUpper lowCount low rest).2) := by
  unfold readUpper
  split
  · rename_i heq
    obtain ⟨rest, rfl, rfl⟩ := eq_cons_of_closed_eq (by decide) heq
    exact readDigits_length_closed t 10 0 0 rest
  · rename_i hother
    split
    · exact (hother _ rfl).elim
    · rfl

theorem closeBounds_closed (low highCount high : Nat) (rest : List Lexeme) :
    closeBounds low highCount high (closed rest t)
      = (closeBounds low highCount high rest).map (boundsBehind t) := by
  unfold closeBounds
  split
  · rename_i heq
    obtain ⟨rest, rfl, rfl⟩ := eq_cons_of_closed_eq (by decide) heq
    show _ = Except.map (boundsBehind t) (if _ then _ else if _ then _ else if _ then _ else _)
    rw [apply_ite (Except.map _), apply_ite (Except.map _), apply_ite (Except.map _)]
    rfl
  · rename_i hother
    split
    · exact (hother _ rfl).elim
    · rfl

theorem readBounds_closed (rest : List Lexeme) :
    readBounds (closed rest t) = (readBounds rest).map (boundsBehind t) := by
  unfold readBounds
  have hhead : ((closed rest t).head? == some (.plain '}'))
      = (rest.head? == some (.plain '}')) := by
    cases rest <;> rfl
  rw [hhead, readDigits_length_closed, apply_ite (Except.map _)]
  dsimp only [behind]
  rw [readUpper_closed]
  dsimp only [behind]
  rw [closeBounds_closed]
  rfl

theorem readRepetition_closed (first : Lexeme) (rest : List Lexeme) :
    readRepetition first (closed rest t) = (readRepetition first rest).map (boundsBehind t) := by
  unfold readRepetition
  split
  · rfl
  · rfl
  · rfl
  · exact readBounds_closed t rest
  · rfl

/-- The part with a constant added to the number of every group. -/
def Part.renumber (d : Nat) (part : Part) : Part :=
  ⟨part.pattern.renumber d, part.role⟩

theorem repeatLast_closed (d : Nat) (parts : List Part) (least : Nat) (most : Option Nat)
    (rest : List Lexeme) :
    repeatLast (parts.map (.renumber d)) least most (closed rest t)
      = (repeatLast parts least most rest).map
          fun read => (read.1.map (.renumber d), closed read.2 t) := by
  cases parts with
  | nil => rfl
  | cons last parts =>
    rw [List.map_cons]
    unfold repeatLast
    dsimp only
    rw [show (Part.renumber d last).role = last.role from rfl]
    cases last.role with
    | anchor => rfl
    | repetition => rfl
    | other =>
      have htimes (greedy : Bool) : (⟨(Part.renumber d last).pattern.times least most greedy,
            .repetition⟩ : Part)
          = Part.renumber d ⟨last.pattern.times least most greedy, .repetition⟩ := by
        rw [Part.renumber, Part.renumber, renumber_times]
      dsimp only
      rw [htimes, htimes]
      split
      · rename_i heq
        obtain ⟨rest, rfl, rfl⟩ := eq_cons_of_closed_eq (by decide) heq
        rfl
      · rename_i heq
        obtain ⟨rest, rfl, rfl⟩ := eq_cons_of_closed_eq (by decide) heq
        rfl
      · rename_i hquestion hplus
        split
        · exact (hquestion _ rfl).elim
        · exact (hplus _ rfl).elim
        · rfl

/-! ## The heads of groups -/

theorem skipComment_closed {rest later : List Lexeme} (h : skipComment rest = .ok later) :
    skipComment (closed rest t) = .ok (closed later t) := by
  induction rest with
  | nil => cases h
  | cons first rest ih =>
    rw [closed_cons]
    unfold skipComment at h ⊢
    split at h
    · cases h
    · rename_i heq
      obtain ⟨rfl, rfl⟩ := List.cons.inj heq
      cases h
      rfl
    · rename_i hother heq
      obtain ⟨rfl, rfl⟩ := List.cons.inj heq
      split
      · rename_i heq
        cases heq
      · rename_i heq
        exact (hother (List.cons.inj heq).1).elim
      · rename_i heq
        obtain ⟨rfl, rfl⟩ := List.cons.inj heq
        exact ih h

theorem readName_closed {read : List Char} {name : String} {rest later : List Lexeme}
    (h : readName read rest = .ok (name, later)) :
    readName read (closed rest t) = .ok (name, closed later t) := by
  induction rest generalizing read with
  | nil => cases h
  | cons first rest ih =>
    rw [closed_cons]
    cases first with
    | escaped c => cases h
    | plain c =>
      by_cases hc : c = '>'
      · subst hc
        rw [readName] at h ⊢
        split at h
        · rename_i hname
          rw [if_pos hname]
          cases h
          rfl
        · cases h
      · rw [readName] at h ⊢
        · exact ih h
        · exact hc
        · exact hc

theorem readLetters_closed (letters : List Char) (rest : List Lexeme) :
    readLetters letters (closed rest t) = behind t (readLetters letters rest) := by
  induction rest generalizing letters with
  | nil => rfl
  | cons first rest ih =>
    rw [closed_cons]
    cases first with
    | escaped c => rfl
    | plain c =>
      unfold readLetters
      rw [apply_ite (behind t), ih]
      rfl

theorem readRemoved_closed {add : List Char} {head : GroupHead} {rest later : List Lexeme}
    (h : readRemoved add rest = .ok (head, later)) :
    readRemoved add (closed rest t) = .ok (head, closed later t) := by
  unfold readRemoved at h ⊢
  rw [readLetters_closed]
  generalize readLetters [] rest = read at h ⊢
  obtain ⟨remove, rest⟩ := read
  dsimp only [behind] at h ⊢
  split at h
  · split at h
    · cases h
    · rename_i hremove
      cases h
      exact if_neg hremove
  · cases h

theorem readOptions_closed {head : GroupHead} {rest later : List Lexeme}
    (h : readOptions rest = .ok (head, later)) :
    readOptions (closed rest t) = .ok (head, closed later t) := by
  unfold readOptions at h ⊢
  rw [readLetters_closed]
  generalize readLetters [] rest = read at h ⊢
  obtain ⟨add, rest⟩ := read
  dsimp only [behind] at h ⊢
  split at h
  · cases h
  · rename_i hscripts
    rw [if_neg hscripts]
    split at h
    · split at h
      · cases h
      · rename_i hadd
        cases h
        exact if_neg hadd
    · split at h
      · cases h
      · rename_i hadd
        cases h
        exact if_neg hadd
    · exact readRemoved_closed t h
    · cases h

theorem readExtension_closed {head : GroupHead} {rest later : List Lexeme}
    (h : readExtension rest = .ok (head, later)) :
    readExtension (closed rest t) = .ok (head, closed later t) := by
  unfold readExtension at h
  split at h
  · cases h
    rfl
  · obtain ⟨left, hleft, hread⟩ := map_eq_ok.mp h
    cases hread
    exact map_eq_ok.mpr ⟨_, skipComment_closed t hleft, rfl⟩
  · cases h
    rfl
  · cases h
    rfl
  · cases h
    rfl
  · cases h
    rfl
  · obtain ⟨left, hleft, hread⟩ := map_eq_ok.mp h
    cases hread
    exact map_eq_ok.mpr ⟨_, readName_closed t hleft, rfl⟩
  · cases h
  · cases h
  · cases h
  · -- no lexeme that announces something else stands in front of the options
    rename_i hcolon hcomment hahead hnotAhead hbehind hnotBehind hname hback hgroup hatomic
    rw [readExtension, readOptions_closed t h]
    all_goals
      intro later heq
      obtain ⟨rest, rfl, heq'⟩ := eq_cons_of_closed_eq (by decide) heq
    · exact hcolon _ rfl
    · exact hcomment _ rfl
    · exact hahead _ rfl
    · exact hnotAhead _ rfl
    · obtain ⟨_, rfl, _⟩ := eq_cons_of_closed_eq (by decide) heq'.symm
      exact hbehind _ rfl
    · obtain ⟨_, rfl, _⟩ := eq_cons_of_closed_eq (by decide) heq'.symm
      exact hnotBehind _ rfl
    · obtain ⟨_, rfl, _⟩ := eq_cons_of_closed_eq (by decide) heq'.symm
      exact hname _ rfl
    · obtain ⟨_, rfl, _⟩ := eq_cons_of_closed_eq (by decide) heq'.symm
      exact hback _ rfl
    · exact hgroup _ rfl
    · exact hatomic _ rfl

theorem readHead_closed {head : GroupHead} {rest later : List Lexeme}
    (h : readHead rest = .ok (head, later)) :
    readHead (closed rest t) = .ok (head, closed later t) := by
  unfold readHead at h
  split at h
  · exact readExtension_closed t h
  · rename_i hquestion
    cases h
    rw [readHead]
    intro later heq
    obtain ⟨rest, rfl, -⟩ := eq_cons_of_closed_eq (by decide) heq
    exact hquestion _ rfl

/-! ## Parts of sequences -/

/-- A comment that something follows ends with its line. -/
theorem skipLine_closed {rest : List Lexeme} (h : skipLine rest ≠ []) :
    skipLine (closed rest t) = closed (skipLine rest) t := by
  induction rest with
  | nil => exact absurd rfl h
  | cons first rest ih =>
    rw [closed_cons]
    unfold skipLine at h ⊢
    split
    · rename_i heq
      cases heq
    · rename_i heq
      cases heq
      rfl
    · rename_i hbreak heq
      cases heq
      split at h
      · rename_i heq
        cases heq
      · rename_i heq
        exact (hbreak (List.cons.inj heq).1).elim
      · rename_i heq
        cases heq
        exact ih h

theorem readEscapedCode_closed {c : Char} {code : Nat} {rest later : List Lexeme}
    (h : readEscapedCode c rest = .ok (code, later)) :
    readEscapedCode c (closed rest t) = .ok (code, closed later t) := by
  unfold readEscapedCode at h ⊢
  rw [readOctal_closed, readCharacter_closed]
  split at h
  · rename_i hzero
    rw [if_pos hzero, h]
    rfl
  · rename_i hzero
    rw [if_neg hzero]
    split at h
    · rename_i hdigit
      rw [if_pos hdigit]
      split at h
      · split at h
        · rename_i hoctal
          rw [closed_cons, closed_cons, h]
          exact if_pos hoctal
        · cases h
      · cases h
    · rename_i hdigit
      rw [if_neg hdigit, h]
      rfl

theorem readEscape_closed {options : PatternOptions} {c : Char} {part : Part}
    {rest later : List Lexeme} (h : readEscape options c rest = .ok (part, later)) (d : Nat) :
    readEscape options c (closed rest t) = .ok (part.renumber d, closed later t) := by
  unfold readEscape at h ⊢
  split at h
  · cases h
    rfl
  · cases h
    rfl
  · obtain ⟨⟨code, left⟩, hcode, hread⟩ := map_eq_ok.mp h
    cases hread
    exact map_eq_ok.mpr ⟨_, readEscapedCode_closed t hcode, rfl⟩

theorem readComplement_closed (rest : List Lexeme) :
    readComplement (closed rest t) = behind t (readComplement rest) := by
  unfold readComplement
  split
  · rename_i heq
    obtain ⟨rest, rfl, rfl⟩ := eq_cons_of_closed_eq (by decide) heq
    rfl
  · rename_i hother
    split
    · exact (hother _ rfl).elim
    · rfl

theorem renumber_dot (d : Nat) (options : PatternOptions) :
    options.dot.renumber d = options.dot := by
  rw [PatternOptions.dot]
  split <;> rfl

/-- A part that is no group reads the same behind any groups: its pattern has
no numbers. -/
theorem readSimple_closed {options : PatternOptions} {first : Lexeme} {part : Part}
    {rest later : List Lexeme} (h : readSimple options first rest = .ok (part, later)) (d : Nat) :
    readSimple options first (closed rest t) = .ok (part.renumber d, closed later t) := by
  unfold readSimple at h ⊢
  split at h
  · exact readEscape_closed t h d
  · cases h
    rw [Part.renumber, renumber_dot]
  · cases h
    rfl
  · cases h
    rfl
  · rw [readComplement_closed]
    obtain ⟨⟨items, left⟩, hset, hread⟩ := map_eq_ok.mp h
    cases hread
    have hle : (readComplement rest).2.length + 1
        ≤ (closed (readComplement rest).2 t).length + 1 := by
      rw [closed, List.length_append]
      omega
    exact map_eq_ok.mpr ⟨_, readSet_closed t hset hle, rfl⟩
  · cases h
    rfl

/-- What comes next in a sequence, with a parenthesis behind it and a constant
added to the numbers of the groups. -/
def Next.closed (d : Nat) : Next → Next
  | .stop => .stop
  | .skip rest => .skip (Parser.closed rest t)
  | .opens head rest => .opens head (Parser.closed rest t)
  | .parts read rest => .parts (read.map (.renumber d)) (Parser.closed rest t)

/-- **Up to the next group, a sequence reads the same with a parenthesis
behind it**, unless a comment runs to the end of the pattern. -/
theorem readNext_closed {options : PatternOptions} {parts : List Part} {rest : List Lexeme}
    {next : Next} (h : readNext options parts rest = .ok next)
    (hskip : options.spaced = true → next ≠ .skip []) (d : Nat) :
    readNext options (parts.map (.renumber d)) (closed rest t) = .ok (next.closed t d) := by
  cases rest with
  | nil =>
    cases h
    rfl
  | cons first rest =>
    rw [closed_cons]
    rw [readNext] at h ⊢
    split at h
    · rename_i hstop
      cases h
      exact if_pos hstop
    rename_i hstop
    rw [if_neg hstop]
    split at h
    · rename_i hspacing
      cases h
      exact if_pos hspacing
    rename_i hspacing
    rw [if_neg hspacing]
    split at h
    · rename_i hcomment
      cases h
      have hspaced : options.spaced = true := (Bool.and_eq_true_iff.mp hcomment).1
      have hline : skipLine rest ≠ [] := fun hnil => hskip hspaced (congrArg Next.skip hnil)
      rw [if_pos hcomment, skipLine_closed t hline]
      rfl
    rename_i hcomment
    rw [if_neg hcomment]
    split at h
    · rename_i hopen
      obtain ⟨⟨head, left⟩, hhead, h⟩ := bind_eq_ok.mp h
      cases h
      rw [if_pos hopen]
      exact bind_eq_ok.mpr ⟨_, readHead_closed t hhead, rfl⟩
    rename_i hopen
    rw [if_neg hopen]
    obtain ⟨bounds, hbounds, h⟩ := bind_eq_ok.mp h
    rw [readRepetition_closed, hbounds]
    refine bind_eq_ok.mpr ⟨boundsBehind t bounds, rfl, ?_⟩
    cases bounds with
    | none =>
      obtain ⟨⟨part, left⟩, hpart, h⟩ := bind_eq_ok.mp h
      cases h
      exact bind_eq_ok.mpr ⟨_, readSimple_closed t hpart d, rfl⟩
    | some bounds =>
      obtain ⟨least, most, left⟩ := bounds
      obtain ⟨⟨repeated, left⟩, hrepeat, h⟩ := bind_eq_ok.mp h
      cases h
      refine bind_eq_ok.mpr ⟨(repeated.map (.renumber d), closed left t), ?_, rfl⟩
      rw [repeatLast_closed, hrepeat]
      rfl

end Pattern.Parser

end SourceLens
