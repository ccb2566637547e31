import Mathlib
import SourceLens.Highlight.Ansi
import SourceLens.Proofs.Highlight.Markup

/-!
# What a terminal shows

A terminal reads its input piece by piece: a piece is a character to show, or a
styling sequence, which changes the pen that the terminal writes with
(`Ansi.read`, `Ansi.painted`). What is written for a text can be read that way
without loss, since the text has no escape characters of its own, and a styling
sequence ends with its first letter: no digit or bracket of the text can be
taken for a part of it (`Ansi.read_flatMap_chars`).

Every segment is written as styling sequences, its characters, and a reset
(`Ansi.piecesOf`). So a terminal shows the characters of a segment in the pen of
its tag, and its pen is plain again behind each of them, whatever came before
(`Ansi.painted_piecesOf`). Without the styling sequences the output is the
characters of the segments. These are the text if and only if the spans follow
one another (`Ansi.render_unstyled`).
-/

namespace SourceLens.Ansi

/-! ## What a terminal reads -/

/-- **A piece of what a terminal reads**: a character to show, or a styling
sequence with its parameters. -/
inductive Piece where
  | character (c : Char)
  | styling (parameters : String)
  deriving DecidableEq

/-- Parameters are made of digits and semicolons. -/
def isParameter (c : Char) : Bool :=
  c.isDigit || c == ';'

namespace Piece

/-- A piece as it is written. -/
def chars : Piece → List Char
  | .character c => [c]
  | .styling parameters => sequence parameters

/-- The character that a piece shows, if it shows one. -/
def shown? : Piece → Option Char
  | .character c => some c
  | .styling _ => none

/-- **A piece that can be told from others**: its character starts no sequence,
and its parameters are no letters. -/
def IsProper : Piece → Prop
  | .character c => c ≠ escapeChar
  | .styling parameters => ∀ c ∈ parameters.toList, isParameter c = true

end Piece

/-- The parameters of a styling sequence and what follows it. The escape
character has been read. -/
def styling? : List Char → Option (String × List Char)
  | '[' :: rest =>
    match rest.dropWhile isParameter with
    | 'm' :: after => some (String.ofList (rest.takeWhile isParameter), after)
    | _ => none
  | _ => none

theorem length_styling? {cs after : List Char} {parameters : String}
    (h : styling? cs = some (parameters, after)) : after.length < cs.length := by
  unfold styling? at h
  split at h
  · rename_i rest
    split at h
    · rename_i rest' hdrop
      cases h
      have hle := List.length_dropWhile_le isParameter rest
      rw [hdrop, List.length_cons] at hle
      rw [List.length_cons]
      omega
    · cases h
  · cases h

/-- **Reads pieces**: wherever a styling sequence stands, it is one, and every
other character is shown. -/
def read : List Char → List Piece
  | [] => []
  | c :: rest =>
    if c = escapeChar then
      match _h : styling? rest with
      | some (parameters, after) => .styling parameters :: read after
      | none => .character c :: read rest
    else .character c :: read rest
termination_by cs => cs.length
decreasing_by
  · exact Nat.lt_succ_of_lt (length_styling? _h)
  · exact Nat.lt_succ_self _
  · exact Nat.lt_succ_self _

/-- **The output without its styling sequences.** -/
def unstyled (output : String) : List Char :=
  (read output.toList).filterMap Piece.shown?

/-- A character that starts no sequence is shown. -/
theorem read_cons {c : Char} (h : c ≠ escapeChar) (rest : List Char) :
    read (c :: rest) = .character c :: read rest := by
  rw [read, if_neg h]

/-- A styling sequence is read to its end. -/
theorem styling?_append {parameters : String}
    (h : ∀ c ∈ parameters.toList, isParameter c = true) (rest : List Char) :
    styling? ('[' :: (parameters.toList ++ 'm' :: rest)) = some (parameters, rest) := by
  have hm : isParameter 'm' = false := by decide
  rw [styling?, List.dropWhile_append_of_pos h, List.takeWhile_append_of_pos h,
    List.dropWhile_cons, hm, List.takeWhile_cons, hm]
  simp

/-- A styling sequence, character by character. -/
theorem sequence_append (parameters : String) (rest : List Char) :
    sequence parameters ++ rest = escapeChar :: '[' :: (parameters.toList ++ 'm' :: rest) := by
  simp [sequence]

theorem read_sequence {parameters : String}
    (h : ∀ c ∈ parameters.toList, isParameter c = true) (rest : List Char) :
    read (sequence parameters ++ rest) = .styling parameters :: read rest := by
  rw [sequence_append, read, if_pos rfl]
  split
  · rename_i hfound
    rw [styling?_append h] at hfound
    cases hfound
    rfl
  · rename_i hnone
    rw [styling?_append h] at hnone
    cases hnone

/-- **Reading undoes writing.** -/
theorem read_flatMap_chars {pieces : List Piece} (h : ∀ piece ∈ pieces, piece.IsProper) :
    read (pieces.flatMap Piece.chars) = pieces := by
  induction pieces with
  | nil => rw [List.flatMap_nil, read]
  | cons piece pieces ih =>
    have hpiece := h piece List.mem_cons_self
    have hlater := ih fun p hp => h p (List.mem_cons_of_mem piece hp)
    rw [List.flatMap_cons]
    cases piece with
    | character c => rw [Piece.chars, List.singleton_append, read_cons hpiece, hlater]
    | styling parameters => rw [Piece.chars, read_sequence hpiece, hlater]

/-! ## Stripping -/

/-- Stripping reads the parameters of a styling sequence to their end. -/
theorem afterParameters?_append {parameters : List Char}
    (h : ∀ c ∈ parameters, isParameter c = true) (rest : List Char) :
    afterParameters? (parameters ++ 'm' :: rest) = some rest := by
  induction parameters with
  | nil => rfl
  | cons c parameters ih =>
    have hc : (c == ';' || c == '?' || c.isDigit) = true := by
      have hparameter := h c List.mem_cons_self
      rw [isParameter, Bool.or_comm, Bool.or_eq_true] at hparameter
      simpa [or_assoc] using hparameter.imp_right Or.inr
    rw [List.cons_append, afterParameters?, if_pos hc]
    exact ih fun d hd => h d (List.mem_cons_of_mem c hd)

/-- A character that starts no sequence is kept. -/
theorem stripOnto_cons {c : Char} (h : c ≠ escapeChar) (steps : Nat) (before rest : List Char) :
    stripOnto (steps + 1) before (c :: rest) = stripOnto steps (c :: before) rest := by
  rw [stripOnto]
  exact fun _ hescape => absurd (beq_iff_eq.mp hescape) h

/-- A styling sequence is left out, in one step. -/
theorem stripOnto_sequence {parameters : String}
    (h : ∀ c ∈ parameters.toList, isParameter c = true) (steps : Nat) (before rest : List Char) :
    stripOnto (steps + 1) before (sequence parameters ++ rest) = stripOnto steps before rest := by
  rw [sequence_append, stripOnto, afterParameters?_append h]
  all_goals rfl

/-- **Stripping leaves the characters that are shown**, if there are as many
steps as characters written. -/
theorem stripOnto_flatMap_chars {pieces : List Piece} (h : ∀ piece ∈ pieces, piece.IsProper)
    {steps : Nat} (hsteps : (pieces.flatMap Piece.chars).length ≤ steps) (before : List Char) :
    stripOnto steps before (pieces.flatMap Piece.chars)
      = before.reverse ++ pieces.filterMap Piece.shown? := by
  induction pieces generalizing steps before with
  | nil => cases steps <;> simp [stripOnto]
  | cons piece pieces ih =>
    have hpiece := h piece List.mem_cons_self
    have hlater := fun p hp => h p (List.mem_cons_of_mem piece hp)
    rw [List.flatMap_cons, List.length_append] at hsteps
    rw [List.flatMap_cons]
    cases piece with
    | character c =>
      have hone : (Piece.character c).chars.length = 1 := rfl
      obtain ⟨steps, rfl⟩ : ∃ n, steps = n + 1 := ⟨steps - 1, by omega⟩
      rw [Piece.chars, List.singleton_append, stripOnto_cons hpiece, ih hlater (by omega),
        List.reverse_cons, List.append_assoc]
      rfl
    | styling parameters =>
      have hsome : 0 < (Piece.styling parameters).chars.length := Nat.succ_pos _
      obtain ⟨steps, rfl⟩ : ∃ n, steps = n + 1 := ⟨steps - 1, by omega⟩
      rw [Piece.chars, stripOnto_sequence hpiece, ih hlater (by omega)]
      rfl

/-! ## Pens -/

/-- **What a terminal writes with**: a colour, or its own one, and a weight. -/
structure Pen where
  colour : Option Colour
  bold : Bool
  deriving DecidableEq

namespace Pen

/-- The pen without any style. -/
def plain : Pen := ⟨none, false⟩

/-- The pen of a tag. -/
def ofTag (palette : Palette) (tag : String) : Pen :=
  ⟨colourOf palette tag, tag == "keyword"⟩

/-- **The pen after the parameters of a styling sequence.** Zero is a reset, one
and twenty-two are weights, and a colour is given by its components. -/
def set : Pen → List Nat → Pen
  | pen, [] => pen
  | _, 0 :: rest => set plain rest
  | pen, 1 :: rest => set { pen with bold := true } rest
  | pen, 22 :: rest => set { pen with bold := false } rest
  | pen, 38 :: 2 :: red :: green :: blue :: rest =>
    set { pen with colour := some ⟨red, green, blue⟩ } rest
  | pen, _ :: rest => set pen rest

end Pen

/-- The numbers between the semicolons of parameters. -/
def numbers (parameters : String) : List Nat :=
  (parameters.toList.splitOn ';').map fun digits => Nat.ofDigitChars 10 digits 0

/-- **What a terminal shows**: the characters, each with the pen that it is
written with. -/
def painted : Pen → List Piece → List (Char × Pen)
  | _, [] => []
  | pen, .character c :: rest => (c, pen) :: painted pen rest
  | pen, .styling parameters :: rest => painted (pen.set (numbers parameters)) rest

/-- The pen that is left behind some pieces. -/
def penAfter : Pen → List Piece → Pen
  | pen, [] => pen
  | pen, .character _ :: rest => penAfter pen rest
  | pen, .styling parameters :: rest => penAfter (pen.set (numbers parameters)) rest

/-- What comes later is shown from the pen that is left. -/
theorem painted_append (pen : Pen) (pieces more : List Piece) :
    painted pen (pieces ++ more) = painted pen pieces ++ painted (penAfter pen pieces) more := by
  induction pieces generalizing pen with
  | nil => rfl
  | cons piece pieces ih =>
    cases piece with
    | character c => exact congrArg ((c, pen) :: ·) (ih pen)
    | styling parameters => exact ih _

theorem penAfter_append (pen : Pen) (pieces more : List Piece) :
    penAfter pen (pieces ++ more) = penAfter (penAfter pen pieces) more := by
  induction pieces generalizing pen with
  | nil => rfl
  | cons piece pieces ih =>
    cases piece with
    | character c => exact ih pen
    | styling parameters => exact ih _

/-- Characters are shown in one pen, and leave it. -/
theorem painted_map_character (pen : Pen) (cs : List Char) :
    painted pen (cs.map .character) = cs.map (·, pen) ∧
      penAfter pen (cs.map .character) = pen := by
  induction cs with
  | nil => exact ⟨rfl, rfl⟩
  | cons c cs ih => exact ⟨congrArg ((c, pen) :: ·) ih.1, ih.2⟩

/-! ## Parameters -/

/-- **Parameters write some numbers** with semicolons between them. -/
def Writes (parameters : String) (values : List Nat) : Prop :=
  parameters.toList = [';'].intercalate (values.map (Nat.toDigits 10))

/-- Digits and semicolons write numbers. -/
theorem isParameter_of_mem_intercalate {values : List Nat} {c : Char}
    (h : c ∈ [';'].intercalate (values.map (Nat.toDigits 10))) : isParameter c = true := by
  have hdigit : ∀ value : Nat, c ∈ Nat.toDigits 10 value → isParameter c = true := by
    intro value hc
    rw [isParameter, Nat.isDigit_of_mem_toDigits (by decide) (by decide) hc]
    rfl
  induction values with
  | nil => cases h
  | cons value values ih =>
    cases values with
    | nil =>
      rw [List.map_cons, List.map_nil, List.intercalate_singleton] at h
      exact hdigit value h
    | cons second values =>
      rw [List.map_cons, List.map_cons, List.intercalate_cons_cons, List.append_assoc,
        List.mem_append, List.mem_append, List.mem_singleton] at h
      obtain h | rfl | h := h
      · exact hdigit value h
      · rfl
      · exact ih h

theorem Writes.isParameter {parameters : String} {values : List Nat}
    (h : Writes parameters values) : ∀ c ∈ parameters.toList, isParameter c = true :=
  fun _ hc => isParameter_of_mem_intercalate (h ▸ hc)

/-- **A terminal finds the numbers** between the semicolons. -/
theorem Writes.numbers_eq {parameters : String} {values : List Nat} (h : Writes parameters values)
    (hne : values ≠ []) : numbers parameters = values := by
  have hsemicolon : ∀ digits ∈ values.map (Nat.toDigits 10), ';' ∉ digits := by
    intro digits hdigits hmem
    obtain ⟨value, -, rfl⟩ := List.mem_map.mp hdigits
    have hdigit := Nat.isDigit_of_mem_toDigits (by decide) (by decide) hmem
    exact absurd hdigit (by decide)
  rw [numbers, h, List.splitOn_intercalate _ hsemicolon (mt List.map_eq_nil_iff.mp hne),
    List.map_map]
  refine List.map_id'' (fun value => ?_) values
  exact Nat.ofDigitChars_toDigits (by decide) (by decide)

/-- A weight is written as one number, and so is a reset. -/
theorem writes_weight (bold : Bool) :
    Writes (if bold then "1" else "22") [if bold then 1 else 22] := by
  have hone : Nat.toDigits 10 1 = ['1'] := by decide
  have htwentyTwo : Nat.toDigits 10 22 = ['2', '2'] := by decide
  cases bold <;> simp [Writes, hone, htwentyTwo]

theorem writes_reset : Writes "0" [0] := by
  simp [Writes]

/-- **A colour that terminals have**: each component is between 0 and 255. -/
def IsShowable (colour : Colour) : Prop :=
  ∀ value ∈ [colour.red, colour.green, colour.blue], 0 ≤ value ∧ value ≤ 255

/-- The parameters that set a colour. -/
def colourParameters (colour : Colour) : String :=
  "38;2;" ++ ";".intercalate [toString colour.red, toString colour.green, toString colour.blue]

theorem foreground_of_isShowable {colour : Colour} (h : IsShowable colour) :
    foreground colour = .ok (sequence (colourParameters colour)) := by
  have hcomponents : isComponent colour.red && isComponent colour.green
      && isComponent colour.blue := by
    simpa [IsShowable, isComponent, and_assoc] using h
  rw [foreground, if_pos hcomponents]
  rfl

/-- A component is written in digits. -/
theorem toList_toString_of_nonneg {n : Int} (h : 0 ≤ n) :
    (toString n).toList = Nat.toDigits 10 n.toNat := by
  have htext : toString n = n.repr := rfl
  rw [htext, Int.repr_eq_if, if_pos h, Nat.repr_eq_ofList_toDigits, String.toList_ofList]

/-- A colour is written as its components, behind two numbers that announce
them. -/
theorem writes_colour {colour : Colour} (h : IsShowable colour) :
    Writes (colourParameters colour)
      [38, 2, colour.red.toNat, colour.green.toNat, colour.blue.toNat] := by
  simp only [IsShowable, List.forall_mem_cons] at h
  obtain ⟨hred, hgreen, hblue, -⟩ := h
  rw [Writes, colourParameters, String.toList_append, String.toList_intercalate, List.map_cons,
    List.map_cons, List.map_cons, toList_toString_of_nonneg hred.1,
    toList_toString_of_nonneg hgreen.1, toList_toString_of_nonneg hblue.1]
  have hforeground : Nat.toDigits 10 38 = ['3', '8'] := by decide
  have hcomponents : Nat.toDigits 10 2 = ['2'] := by decide
  simp [hforeground, hcomponents]

/-! ## Segments -/

/-- **The pieces of a segment**: its colour, if there is one, its weight, its
characters, and a reset. -/
def piecesOf (palette : Palette) (s : Segment) : List Piece :=
  ((colourOf palette s.tag).map fun colour => Piece.styling (colourParameters colour)).toList
    ++ .styling (if s.tag == "keyword" then "1" else "22")
      :: (s.chars.toList.map .character ++ [.styling "0"])

variable {palette : Palette}

/-- A colour of a palette is one of its entries. -/
theorem isShowable_of_colourOf (h : ∀ entry ∈ palette, IsShowable entry.2) {tag : String}
    {colour : Colour} (hcolour : colourOf palette tag = some colour) : IsShowable colour := by
  have hlookup : ∀ {other : String}, palette.lookup other = some colour → IsShowable colour := by
    intro other hother
    obtain ⟨before, after, rfl, -⟩ := List.lookup_eq_some_iff.mp hother
    exact h _ (List.mem_append_right before List.mem_cons_self)
  unfold colourOf at hcolour
  split at hcolour
  · rename_i found hfound
    cases hcolour
    exact hlookup hfound
  · exact hlookup hcolour

/-- **A segment is written as its pieces.** -/
theorem segment_eq (h : ∀ entry ∈ palette, IsShowable entry.2) (s : Segment) :
    segment palette s = .ok ((piecesOf palette s).flatMap Piece.chars) := by
  have hchars : (s.chars.toList.map Piece.character).flatMap Piece.chars = s.chars.toList := by
    rw [List.flatMap_map]
    exact List.flatMap_singleton' _
  have hpieces : (piecesOf palette s).flatMap Piece.chars
      = ((colourOf palette s.tag).map fun colour => sequence (colourParameters colour)).getD []
        ++ weight (s.tag == "keyword") ++ s.chars.toList ++ reset := by
    unfold piecesOf
    rw [List.flatMap_append, List.flatMap_cons, List.flatMap_append, hchars]
    cases colourOf palette s.tag <;> simp [Piece.chars, weight, reset]
  rw [hpieces, segment]
  cases hcolour : colourOf palette s.tag with
  | none => rfl
  | some colour =>
    dsimp only
    rw [foreground_of_isShowable (isShowable_of_colourOf h hcolour)]
    rfl

/-- **Segments are written as their pieces**, one after the other. -/
theorem segments_eq (h : ∀ entry ∈ palette, IsShowable entry.2) (ss : List Segment) :
    segments palette ss = .ok ((ss.flatMap (piecesOf palette)).flatMap Piece.chars) := by
  induction ss with
  | nil => rfl
  | cons s ss ih =>
    rw [segments, segment_eq h, ih, List.flatMap_cons, List.flatMap_append]
    rfl

/-- The pieces of a segment can be told apart, if it has no escape character. -/
theorem isProper_of_mem_piecesOf (h : ∀ entry ∈ palette, IsShowable entry.2) {s : Segment}
    (hchars : escapeChar ∉ s.chars.toList) : ∀ piece ∈ piecesOf palette s, piece.IsProper := by
  intro piece hpiece
  unfold piecesOf at hpiece
  rw [List.mem_append, List.mem_cons, List.mem_append, List.mem_singleton, Option.mem_toList,
    Option.map_eq_some_iff] at hpiece
  obtain ⟨colour, hcolour, rfl⟩ | rfl | hchar | rfl := hpiece
  · exact (writes_colour (isShowable_of_colourOf h hcolour)).isParameter
  · exact (writes_weight _).isParameter
  · obtain ⟨c, hc, rfl⟩ := List.mem_map.mp hchar
    exact fun heq => hchars (heq ▸ hc)
  · exact writes_reset.isParameter

/-- The characters of a segment are what its pieces show. -/
theorem filterMap_shown?_piecesOf (palette : Palette) (s : Segment) :
    (piecesOf palette s).filterMap Piece.shown? = s.chars.toList := by
  have hchars : (s.chars.toList.map Piece.character).filterMap Piece.shown? = s.chars.toList := by
    rw [List.filterMap_map]
    exact List.filterMap_some
  unfold piecesOf
  rw [List.filterMap_append, List.filterMap_cons, List.filterMap_append, hchars]
  cases colourOf palette s.tag with
  | none => exact List.append_nil _
  | some colour => exact List.append_nil _

/-- The styling sequences of a segment set the pen of its tag. -/
theorem set_penAfter_colour (h : ∀ entry ∈ palette, IsShowable entry.2) (tag : String) :
    Pen.set (penAfter .plain
        ((colourOf palette tag).map fun colour => Piece.styling (colourParameters colour)).toList)
      (numbers (if tag == "keyword" then "1" else "22")) = Pen.ofTag palette tag := by
  have hweight (pen : Pen) : pen.set [if tag == "keyword" then 1 else 22]
      = { pen with bold := tag == "keyword" } := by
    cases tag == "keyword" <;> rfl
  rw [(writes_weight _).numbers_eq (List.cons_ne_nil _ _), hweight, Pen.ofTag]
  cases hcolour : colourOf palette tag with
  | none => rfl
  | some colour =>
    have hshowable := isShowable_of_colourOf h hcolour
    have hset : Pen.plain.set (numbers (colourParameters colour)) = ⟨some colour, false⟩ := by
      rw [(writes_colour hshowable).numbers_eq (List.cons_ne_nil _ _)]
      simp only [IsShowable, List.forall_mem_cons] at hshowable
      obtain ⟨hred, hgreen, hblue, -⟩ := hshowable
      simp only [Pen.set, Int.toNat_of_nonneg hred.1, Int.toNat_of_nonneg hgreen.1,
        Int.toNat_of_nonneg hblue.1]
      rfl
    have hpen : penAfter .plain [Piece.styling (colourParameters colour)] = ⟨some colour, false⟩ :=
      hset
    exact congrArg (fun pen : Pen => { pen with bold := tag == "keyword" }) hpen

/-- **A segment is shown in the pen of its tag**, and leaves a plain pen. -/
theorem painted_piecesOf (h : ∀ entry ∈ palette, IsShowable entry.2) (s : Segment) :
    painted .plain (piecesOf palette s) = s.chars.toList.map (·, Pen.ofTag palette s.tag) ∧
      penAfter .plain (piecesOf palette s) = .plain := by
  have hreset (pen : Pen) : pen.set (numbers "0") = .plain := by
    rw [writes_reset.numbers_eq (List.cons_ne_nil _ _)]
    rfl
  have hcolour : painted .plain
      ((colourOf palette s.tag).map fun colour => Piece.styling (colourParameters colour)).toList
      = [] := by
    cases colourOf palette s.tag <;> rfl
  obtain ⟨hchars, hpen⟩ := painted_map_character (Pen.ofTag palette s.tag) s.chars.toList
  unfold piecesOf
  rw [painted_append, penAfter_append, hcolour, painted, penAfter, set_penAfter_colour h,
    painted_append, penAfter_append, hchars, hpen, painted, penAfter, hreset]
  exact ⟨List.append_nil _, rfl⟩

/-- **Every segment is shown in the pen of its own tag**: what comes before it
leaves a plain pen. -/
theorem painted_flatMap_piecesOf (h : ∀ entry ∈ palette, IsShowable entry.2)
    (ss : List Segment) :
    painted .plain (ss.flatMap (piecesOf palette))
        = ss.flatMap (fun s => s.chars.toList.map (·, Pen.ofTag palette s.tag)) ∧
      penAfter .plain (ss.flatMap (piecesOf palette)) = .plain := by
  induction ss with
  | nil => exact ⟨rfl, rfl⟩
  | cons s ss ih =>
    obtain ⟨hshown, hpen⟩ := painted_piecesOf h s
    rw [List.flatMap_cons, List.flatMap_cons, painted_append, penAfter_append, hshown, hpen]
    exact ⟨congrArg (_ ++ ·) ih.1, ih.2⟩

/-! ## Rendering -/

/-- The palette that is rendered with: an empty one stands for the dark theme. -/
def used (palette : Palette) : Palette :=
  if palette.isEmpty then darkPalette else palette

/-- Terminals have the colours of the dark theme. -/
theorem isShowable_darkPalette : ∀ entry ∈ darkPalette, IsShowable entry.2 := by
  simp [darkPalette, IsShowable]

theorem isShowable_used (h : ∀ entry ∈ palette, IsShowable entry.2) :
    ∀ entry ∈ used palette, IsShowable entry.2 := by
  unfold used
  split
  · exact isShowable_darkPalette
  · exact h

/-- The characters of a stretch are characters of the text. -/
theorem mem_of_mem_cutFrom {text : Text} {offset : Nat} {spans : List Span} {s : Segment}
    (h : s ∈ Segment.cutFrom text offset spans) : ∀ c ∈ s.chars.toList, c ∈ text.toList := by
  have hslice (start stop : Nat) : ∀ c ∈ (text.slice start stop).toList, c ∈ text.toList := by
    intro c hc
    rw [Text.slice, Array.toList_extract, List.extract_eq_take_drop] at hc
    exact List.mem_of_mem_drop (List.mem_of_mem_take hc)
  have hgap : ∀ {start stop : Nat}, s ∈ Segment.gap text start stop →
      ∀ c ∈ s.chars.toList, c ∈ text.toList := by
    intro start stop hs
    unfold Segment.gap at hs
    split at hs
    · rw [List.mem_singleton.mp hs]
      exact hslice start stop
    · cases hs
  induction spans generalizing offset with
  | nil => exact hgap h
  | cons span rest ih =>
    rw [Segment.cutFrom_cons, List.mem_append, List.mem_cons] at h
    obtain hs | rfl | hs := h
    · exact hgap hs
    · exact hslice span.start span.stop
    · exact ih hs

variable {text : Text}

/-- The pieces of the segments of a text without escape characters can be told
apart. -/
theorem isProper_of_mem_pieces (h : ∀ entry ∈ palette, IsShowable entry.2)
    (htext : escapeChar ∉ text.toList) (spans : List Span) :
    ∀ piece ∈ (Segment.cut text spans).flatMap (piecesOf palette), piece.IsProper := by
  intro piece hpiece
  obtain ⟨s, hs, hpiece⟩ := List.mem_flatMap.mp hpiece
  exact isProper_of_mem_piecesOf h (fun hmem => htext (mem_of_mem_cutFrom hs _ hmem)) piece hpiece

/-- The characters of segments are what their pieces show. -/
theorem filterMap_shown?_flatMap_piecesOf (palette : Palette) (ss : List Segment) :
    (ss.flatMap (piecesOf palette)).filterMap Piece.shown? = ss.flatMap (·.chars.toList) := by
  rw [List.filterMap_flatMap]
  exact List.flatMap_congr fun s _ => filterMap_shown?_piecesOf palette s

/-- **What is rendered are the pieces of the segments**, and it reads as
them. -/
theorem exists_render (hpalette : ∀ entry ∈ palette, IsShowable entry.2)
    (htext : escapeChar ∉ text.toList) (spans : List Span) :
    ∃ output, render text spans palette = .ok output ∧
      read output.toList = (Segment.cut text spans).flatMap (piecesOf (used palette)) ∧
      strip output = String.ofList (unstyled output) := by
  have hused := isShowable_used hpalette
  have hproper := isProper_of_mem_pieces hused htext spans
  have hrender : render text spans palette = .ok (String.ofList
      (((Segment.cut text spans).flatMap (piecesOf (used palette))).flatMap Piece.chars)) := by
    rw [render, ← used, segments_eq hused]
    rfl
  have hread := read_flatMap_chars hproper
  refine ⟨_, hrender, ?_, ?_⟩
  · rw [String.toList_ofList, hread]
  · rw [strip, unstyled, String.toList_ofList, hread,
      stripOnto_flatMap_chars hproper (Nat.le_refl _), List.reverse_nil, List.nil_append]

/-- **Text rendered for a terminal is the text and its styles.** Whatever the
spans of a text without escape characters are, rendering does not fail with the
colours that terminals have; what is read from the output are the pieces of the
segments, so that a reset stands behind the characters of each; every character
is shown in the pen of the tag of its own segment; and the pen is plain in the
end. The output without its styling sequences is the text if and only if the
spans follow one another. Spans in the order of their starts that share no
character do, provided that no empty one starts before the end of one ahead of
it. -/
theorem render_unstyled (text : Text) (spans : List Span) (palette : Palette)
    (hpalette : ∀ entry ∈ palette, IsShowable entry.2) (htext : escapeChar ∉ text.toList) :
    ∃ output, render text spans palette = .ok output ∧
      read output.toList = (Segment.cut text spans).flatMap (piecesOf (used palette)) ∧
      painted .plain (read output.toList) = (Segment.cut text spans).flatMap
        (fun s => s.chars.toList.map (·, Pen.ofTag (used palette) s.tag)) ∧
      penAfter .plain (read output.toList) = .plain ∧
      strip output = String.ofList (unstyled output) ∧
      (unstyled output = text.toList ↔ Span.Follow text.size 0 spans) ∧
      ((spans.Pairwise fun a b => a.start ≤ b.start) → spans.Pairwise Html.Disjoint →
        (spans.Pairwise fun a b => b.start = b.stop → a.stop ≤ b.start) →
        unstyled output = text.toList) := by
  obtain ⟨output, hrender, hread, hstrip⟩ := exists_render hpalette htext spans
  obtain ⟨hpainted, hpen⟩ :=
    painted_flatMap_piecesOf (isShowable_used hpalette) (Segment.cut text spans)
  have hiff : unstyled output = text.toList ↔ Span.Follow text.size 0 spans := by
    rw [unstyled, hread, filterMap_shown?_flatMap_piecesOf, Segment.flatMap_chars_cut_iff]
  rw [← hread] at hpainted hpen
  refine ⟨output, hrender, hread, hpainted, hpen, hstrip, hiff, ?_⟩
  intro hordered hdisjoint hempty
  refine hiff.mpr (Span.follow_of_pairwise ?_ fun _ _ => Nat.zero_le _)
  refine (hordered.and (hdisjoint.and hempty)).imp fun h => ?_
  exact Html.stop_le_start h.1 h.2.1 h.2.2

/-- Digits and brackets in the source, a keyword with a colour of its own, and
a span that ends beyond the text. -/
theorem render_small_unstyled :
    (∀ entry ∈ [("keyword", (⟨1, 2, 3⟩ : Colour)), ("default", ⟨0, 0, 255⟩)],
      IsShowable entry.2) ∧
    escapeChar ∉ (#['[', '0', 'm', ';'] : Text).toList ∧
    ∃ output, render #['[', '0', 'm', ';']
        [⟨0, 3, "keyword", by omega⟩, ⟨3, 9, "number", by omega⟩]
        [("keyword", ⟨1, 2, 3⟩), ("default", ⟨0, 0, 255⟩)] = .ok output ∧
      unstyled output = ['[', '0', 'm', ';'] := by
  have hpalette : ∀ entry ∈ [("keyword", (⟨1, 2, 3⟩ : Colour)), ("default", ⟨0, 0, 255⟩)],
      IsShowable entry.2 := by
    simp [IsShowable]
  have htext : escapeChar ∉ (#['[', '0', 'm', ';'] : Text).toList := by
    simp [escapeChar]
  obtain ⟨output, hrender, -, -, -, -, hiff, -⟩ := render_unstyled #['[', '0', 'm', ';']
    [⟨0, 3, "keyword", by omega⟩, ⟨3, 9, "number", by omega⟩] _ hpalette htext
  exact ⟨hpalette, htext, output, hrender, hiff.mpr (by decide)⟩

/-- **Not all spans in the order of their starts that share no character give
back the text**: behind a span that ends later, an empty one takes the text
back to where it stands. -/
theorem not_forall_unstyled_render :
    ¬ ∀ (text : Text) (spans : List Span) (palette : Palette),
      (∀ entry ∈ palette, IsShowable entry.2) → escapeChar ∉ text.toList →
      (spans.Pairwise fun a b => a.start ≤ b.start) → spans.Pairwise Html.Disjoint →
      ∃ output, render text spans palette = .ok output ∧ unstyled output = text.toList := by
  intro h
  let spans : List Span := [⟨0, 1, "k", by omega⟩, ⟨0, 0, "k", by omega⟩]
  let palette : Palette := [("default", ⟨1, 2, 3⟩)]
  have hpalette : ∀ entry ∈ palette, IsShowable entry.2 := by
    simp [palette, IsShowable]
  have htext : escapeChar ∉ (#['a', 'b'] : Text).toList := by
    simp [escapeChar]
  have hdisjoint : spans.Pairwise Html.Disjoint := by
    simp [spans, Html.Disjoint, Span.covers]
  obtain ⟨output, hrender, hshown⟩ :=
    h #['a', 'b'] spans palette hpalette htext (by simp [spans]) hdisjoint
  obtain ⟨output', hrender', hread, -⟩ := exists_render hpalette htext spans
  obtain rfl : output = output' := Except.ok.inj (hrender.symm.trans hrender')
  rw [unstyled, hread, filterMap_shown?_flatMap_piecesOf, Segment.flatMap_chars_cut_iff] at hshown
  revert hshown
  decide

end SourceLens.Ansi
