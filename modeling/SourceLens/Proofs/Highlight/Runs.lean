import Mathlib
import SourceLens.Highlight.Basic
import SourceLens.Proofs.Highlight.Applying

/-!
# The runs of a buffer

The runs of a buffer are one of many ways to write its tags down: a run could be
cut in two, or be written over by another. The canonical runs are the ones without
such a choice (`TagRun.Canonical`): they tile the offsets, neighbours have
different tags, and written over any tags they give those of the buffer. There is
one such list, since its stretches have to be the maximal groups of equal tags
(`TagRun.Tiles.map_tags`), and stretches that tile are told by their lengths.

A buffer keeps its length whatever is done to it, also where a text does not fit,
a span stops half-way, or a language fails (`BufferOperation.length_performAll`).
So the runs tile the offsets that the buffer was created with, after any history
(`BufferOrigin.performAll_runs`).
-/

namespace SourceLens

namespace TagBuffer

/-- **Filling replaces a stretch** by as many tags as it has offsets. -/
theorem toList_fill {tags : Array String} {offset count : Nat} (tag : String)
    (h : offset + count ≤ tags.size) :
    (fill tags tag offset count).toList
      = tags.toList.take offset ++ List.replicate count tag
        ++ tags.toList.drop (offset + count) := by
  apply List.ext_getElem?
  intro i
  rw [Array.getElem?_toList, getElem?_fill]
  grind

end TagBuffer

namespace TagRun

/-! ## The canonical form -/

/-- Writes the tag of a run over its range. -/
def write (tags : Array String) (run : TagRun) : Array String :=
  TagBuffer.fill tags run.tag run.start (run.stop - run.start)

/-- **The canonical runs of some tags.** -/
structure Canonical (tags : Array String) (runs : List TagRun) : Prop where
  /-- No run is empty, the first starts at the first offset, each of the others
  where the one before it stops, and the last one stops at the end. -/
  tiles : Tiles tags.size 0 runs
  /-- Neighbours have different tags. -/
  apart : runs.IsChain fun run next => run.tag ≠ next.tag
  /-- Written over any tags, they give these. -/
  written : ∀ before : Array String, before.size = tags.size → runs.foldl write before = tags

variable {size start : Nat} {runs : List TagRun} {tags : Array String}

theorem Tiles.start_le (h : Tiles size start runs) : start ≤ size := by
  induction h with
  | nil => exact Nat.le_refl size
  | cons nonempty _ ih => exact nonempty.le.trans ih

/-- **Runs that tile the offsets leave nothing of the tags before**, from where
they start. -/
theorem Tiles.toList_write (h : Tiles size start runs) {before : Array String}
    (hsize : before.size = size) :
    (runs.foldl write before).toList = before.toList.take start ++ runs.flatMap TagRun.tags := by
  induction h generalizing before with
  | nil =>
    rw [List.foldl_nil, List.flatMap_nil, List.append_nil, ← hsize, ← Array.length_toList,
      List.take_length]
  | @cons run rest nonempty later ih =>
    have hstop : run.start + (run.stop - run.start) = run.stop :=
      Nat.add_sub_of_le nonempty.le
    have hfits : run.start + (run.stop - run.start) ≤ before.size := by
      rw [hstop, hsize]
      exact later.start_le
    have hfront : (before.toList.take run.start ++ run.tags).length = run.stop := by
      rw [List.length_append, List.length_take, tags, List.length_replicate,
        Array.length_toList]
      omega
    have hwritten : (write before run).toList
        = before.toList.take run.start ++ run.tags ++ before.toList.drop run.stop := by
      rw [write, TagBuffer.toList_fill run.tag hfits, hstop]
      rfl
    rw [List.foldl_cons, ih (by rw [write, TagBuffer.size_fill, hsize]), hwritten,
      List.take_left' hfront, List.flatMap_cons, List.append_assoc]

/-- Runs that tile the offsets are written as they are read. -/
theorem Tiles.written_iff (h : Tiles tags.size 0 runs) :
    (∀ before : Array String, before.size = tags.size → runs.foldl write before = tags) ↔
      runs.flatMap TagRun.tags = tags.toList := by
  have hlist {before : Array String} (hsize : before.size = tags.size) :
      (runs.foldl write before).toList = runs.flatMap TagRun.tags := h.toList_write hsize
  refine ⟨fun hwritten => ?_, fun hread before hsize => ?_⟩
  · rw [← hlist rfl, hwritten tags rfl]
  · rw [← Array.toList_inj, hlist hsize, hread]

/-- The first of some tiling runs, and the others. -/
theorem Tiles.of_cons {run : TagRun} {rest : List TagRun} (h : Tiles size start (run :: rest)) :
    run.start = start ∧ run.start < run.stop ∧ Tiles size run.stop rest := by
  cases h with
  | cons nonempty later => exact ⟨rfl, nonempty, later⟩

/-- No tiling run is empty. -/
theorem Tiles.tags_ne_nil (h : Tiles size start runs) {run : TagRun} (hrun : run ∈ runs) :
    run.tags ≠ [] := by
  induction h with
  | nil => cases hrun
  | cons nonempty _ ih =>
    obtain rfl | hrest := List.mem_cons.mp hrun
    · rw [tags, Ne, List.replicate_eq_nil_iff]
      omega
    · exact ih hrest

/-- **The stretches of tiling runs whose neighbours differ** are the maximal
groups of equal tags. -/
theorem Tiles.map_tags (h : Tiles size start runs)
    (hapart : runs.IsChain fun run next => run.tag ≠ next.tag) :
    runs.map TagRun.tags = (runs.flatMap TagRun.tags).splitBy (· == ·) := by
  rw [List.flatMap_def, List.splitBy_flatten]
  · intro hempty
    obtain ⟨run, hrun, hnil⟩ := List.mem_map.mp hempty
    exact h.tags_ne_nil hrun hnil
  · intro stretch hstretch
    obtain ⟨run, -, rfl⟩ := List.mem_map.mp hstretch
    exact List.isChain_replicate_of_rel _ (beq_self_eq_true run.tag)
  · refine (List.isChain_map TagRun.tags).mpr (hapart.imp_of_mem_imp ?_)
    intro run next hrun hnext hne
    refine ⟨h.tags_ne_nil hrun, h.tags_ne_nil hnext, ?_⟩
    simp only [tags, List.getLast_replicate, List.head_replicate]
    exact beq_false_of_ne hne

/-- A tiling is told by its stretches. -/
theorem Tiles.eq_of_map_tags {others : List TagRun} (h : Tiles size start runs)
    (h' : Tiles size start others) (heq : runs.map TagRun.tags = others.map TagRun.tags) :
    runs = others := by
  induction runs generalizing start others with
  | nil => exact (List.map_eq_nil_iff.mp heq.symm).symm
  | cons run rest ih =>
    cases others with
    | nil => cases heq
    | cons other later =>
      obtain ⟨hstart, hlt, hrest⟩ := h.of_cons
      obtain ⟨hstart', hlt', hlater⟩ := h'.of_cons
      obtain ⟨hstretch, hstretches⟩ := List.cons.inj heq
      obtain ⟨hlength, htag⟩ := List.replicate_inj.mp hstretch
      have hstop : run.stop = other.stop := by omega
      have hfirst : run = other := by
        cases run
        cases other
        congr
        · exact hstart.trans hstart'.symm
        · exact htag.resolve_left (Nat.sub_ne_zero_of_lt hlt)
      rw [hfirst, ih hrest (hstop ▸ hlater) hstretches]

/-- **There is one list of canonical runs.** -/
theorem Canonical.unique {others : List TagRun} (h : Canonical tags runs)
    (h' : Canonical tags others) : runs = others := by
  refine h.tiles.eq_of_map_tags h'.tiles ?_
  rw [h.tiles.map_tags h.apart, h'.tiles.map_tags h'.apart, h.tiles.written_iff.mp h.written,
    h'.tiles.written_iff.mp h'.written]

end TagRun

namespace TagBuffer

/-- The first run that is given has the tag that is being read. -/
theorem exists_runsFrom_eq (start : Nat) (tag : String) (offset : Nat) (rest : List String) :
    ∃ stop later, runsFrom start tag offset rest = ⟨start, stop, tag⟩ :: later := by
  induction rest generalizing offset with
  | nil => exact ⟨offset, [], rfl⟩
  | cons next rest ih =>
    unfold runsFrom
    split
    · exact ih (offset + 1)
    · exact ⟨offset, _, rfl⟩

/-- A run is given up where another tag begins, which is that of the next. -/
theorem isChain_runsFrom (start : Nat) (tag : String) (offset : Nat) (rest : List String) :
    (runsFrom start tag offset rest).IsChain fun run next => run.tag ≠ next.tag := by
  induction rest generalizing start tag offset with
  | nil => exact .singleton _
  | cons next rest ih =>
    unfold runsFrom
    split
    · exact ih start tag (offset + 1)
    · rename_i hother
      obtain ⟨stop, later, hlater⟩ := exists_runsFrom_eq offset next (offset + 1) rest
      have hchain := ih offset next (offset + 1)
      rw [hlater] at hchain ⊢
      exact List.isChain_cons_cons.mpr ⟨fun heq => hother (beq_iff_eq.mpr heq.symm), hchain⟩

/-- **The runs of a buffer are canonical**, and no others are. -/
theorem canonical_iff {buffer : TagBuffer} {runs : List TagRun} :
    TagRun.Canonical buffer.tags runs ↔ runs = buffer.runs := by
  have hcanonical : TagRun.Canonical buffer.tags buffer.runs := by
    have htiles := tiles_runs buffer
    refine ⟨htiles, ?_, htiles.written_iff.mpr (flatMap_runs buffer)⟩
    unfold TagBuffer.runs
    cases buffer.tags.toList with
    | nil => exact .nil
    | cons tag rest => exact isChain_runsFrom 0 tag 1 rest
  exact ⟨fun h => h.unique hcanonical, fun h => h ▸ hcanonical⟩

/-- Only an empty buffer has no runs. -/
theorem runs_eq_nil_iff (buffer : TagBuffer) : buffer.runs = [] ↔ buffer.length = 0 := by
  have hlength : buffer.tags.toList.length = buffer.length := Array.length_toList
  constructor
  · intro hnone
    rw [← hlength, ← flatMap_runs, hnone]
    rfl
  · intro hempty
    rw [hempty, List.length_eq_zero_iff] at hlength
    unfold runs
    rw [hlength]

/-- A text and its spans leave the length of a buffer. -/
theorem length_applyHighlighting (buffer : TagBuffer) (text : Text) (spans : List Span) :
    (buffer.applyHighlighting text spans).1.length = buffer.length := by
  obtain hlt | hle := Nat.lt_or_ge buffer.length text.size
  · rw [applyHighlighting_of_lt hlt]
  · rw [applyHighlighting_of_le hle]
    exact Array.size_mapIdx

/-- Highlighting leaves the length of a buffer, also where it fails. -/
theorem length_highlight (registry : Registry) (buffer : TagBuffer) (text : Text)
    (language : Option String) :
    (registry.highlight buffer text language).buffer.length = buffer.length := by
  unfold Registry.highlight
  dsimp only
  cases (registry.ruleFor language).1.spans text with
  | error cause => rfl
  | ok spans =>
    have hlength := length_applyHighlighting buffer text spans
    dsimp only
    generalize buffer.applyHighlighting text spans = applied at hlength ⊢
    obtain ⟨shown, outcome⟩ := applied
    cases outcome with
    | none => exact hlength
    | some cause => exact hlength

/-- **Tagging a range of the buffer** puts the tag in the place of each of its
tags: its offsets get the tag, and all others keep theirs. -/
theorem setTag_eq_ok {buffer : TagBuffer} {start stop : Int} (tag : String)
    (h : 0 ≤ start ∧ start ≤ stop ∧ stop ≤ buffer.length) :
    ∃ after, buffer.setTag start stop tag = .ok after ∧
      after.tags.toList = buffer.tags.toList.take start.toNat
        ++ List.replicate (stop - start).toNat tag ++ buffer.tags.toList.drop stop.toNat ∧
      ∀ i : Nat, after.tags[i]? = buffer.tags[i]?.map fun before =>
        if start ≤ i ∧ i < stop then tag else before := by
  have hstop : start.toNat + (stop - start).toNat = stop.toNat := by omega
  have hfits : stop.toNat ≤ buffer.tags.size := Int.toNat_le.mpr h.2.2
  refine ⟨_, by rw [setTag, if_pos (hasRange_iff.mpr h)], ?_, fun i => ?_⟩
  · rw [toList_fill tag (hstop.le.trans hfits), hstop]
  · have hin : (start.toNat ≤ i ∧ i < stop.toNat) ↔ (start ≤ i ∧ i < stop) := by omega
    rw [getElem?_fill, hstop]
    simp only [hin]

/-- Any other range is refused. -/
theorem setTag_eq_error {buffer : TagBuffer} {start stop : Int} (tag : String)
    (h : ¬ (0 ≤ start ∧ start ≤ stop ∧ stop ≤ buffer.length)) :
    buffer.setTag start stop tag = .error (.outside start stop buffer.length) := by
  rw [setTag, if_neg fun hrange => h (hasRange_iff.mp hrange)]

end TagBuffer

/-! ## Histories -/

/-- **What can be done to a buffer.** -/
inductive BufferOperation where
  | setTag (start stop : Int) (tag : String)
  | apply (text : Text) (spans : List Span)
  | highlight (registry : Registry) (text : Text) (language : Option String)

/-- The buffer after an operation, which may have been refused or have failed on
its way. -/
def BufferOperation.perform (buffer : TagBuffer) : BufferOperation → TagBuffer
  | .setTag start stop tag =>
    match buffer.setTag start stop tag with
    | .ok after => after
    | .error _ => buffer
  | .apply text spans => (buffer.applyHighlighting text spans).1
  | .highlight registry text language => (registry.highlight buffer text language).buffer

/-- **How a buffer comes about.** -/
inductive BufferOrigin where
  | ofLength (length : Int)
  | ofText (text : Text)
  | highlighted (registry : Registry) (text : Text) (language : Option String)

namespace BufferOrigin

/-- The buffer to start with; none if it is refused. -/
def create : BufferOrigin → Option TagBuffer
  | .ofLength length => (TagBuffer.make length).toOption
  | .ofText text => some (.blank text.size)
  | .highlighted registry text language =>
    let shown := registry.highlightText text language
    shown.spans.toOption.map fun _ => shown.buffer

/-- The length that is asked for. -/
def length : BufferOrigin → Int
  | .ofLength length => length
  | .ofText text => text.size
  | .highlighted _ text _ => text.size

/-- A buffer has the length that was asked for. -/
theorem length_create {origin : BufferOrigin} {buffer : TagBuffer}
    (h : origin.create = some buffer) : (buffer.length : Int) = origin.length := by
  have hblank (length : Nat) : (TagBuffer.blank length).length = length := Array.size_replicate
  cases origin with
  | ofLength length =>
    dsimp only [create, TagBuffer.make] at h
    split_ifs at h with hnegative
    · cases h
    · cases h
      rw [hblank, BufferOrigin.length]
      exact Int.toNat_of_nonneg (Int.not_lt.mp hnegative)
  | ofText text =>
    cases h
    rw [hblank, BufferOrigin.length]
  | highlighted registry text language =>
    obtain ⟨_, -, rfl⟩ := Option.map_eq_some_iff.mp h
    rw [Registry.highlightText, TagBuffer.length_highlight, hblank, BufferOrigin.length]

end BufferOrigin

namespace BufferOperation

/-- **An operation leaves the length of a buffer.** -/
theorem length_perform (buffer : TagBuffer) (operation : BufferOperation) :
    (operation.perform buffer).length = buffer.length := by
  cases operation with
  | setTag start stop tag =>
    dsimp only [perform, TagBuffer.setTag]
    split_ifs with hrange
    · exact TagBuffer.size_fill _ _ _ _
    · rfl
  | apply text spans => exact TagBuffer.length_applyHighlighting buffer text spans
  | highlight registry text language =>
    exact TagBuffer.length_highlight registry buffer text language

/-- The buffer after some operations. -/
def performAll (buffer : TagBuffer) (operations : List BufferOperation) : TagBuffer :=
  operations.foldl perform buffer

/-- **A history leaves the length of a buffer.** -/
theorem length_performAll (buffer : TagBuffer) (operations : List BufferOperation) :
    (performAll buffer operations).length = buffer.length := by
  induction operations generalizing buffer with
  | nil => rfl
  | cons operation rest ih => exact (ih _).trans (length_perform buffer operation)

end BufferOperation

/-- **The runs of a buffer after any history.** However the buffer came about and
whatever was done to it, refused or not, it has the length it was created with. Its
runs are canonical, and no other list of runs is; there are none only if it is
empty. And if a range is tagged next that is one of the buffer, its offsets get the
tag and all others keep theirs; any other range is refused, and nothing changes. -/
theorem BufferOrigin.performAll_runs {origin : BufferOrigin} {buffer : TagBuffer}
    (h : origin.create = some buffer) (operations : List BufferOperation) :
    let reached := BufferOperation.performAll buffer operations
    (reached.length : Int) = origin.length ∧
    (∀ runs, TagRun.Canonical reached.tags runs ↔ runs = reached.runs) ∧
    (reached.runs = [] ↔ reached.length = 0) ∧
    ∀ (start stop : Int) (tag : String),
      let after := (BufferOperation.setTag start stop tag).perform reached
      (0 ≤ start ∧ start ≤ stop ∧ stop ≤ reached.length →
        reached.setTag start stop tag = .ok after ∧
        after.tags.toList = reached.tags.toList.take start.toNat
          ++ List.replicate (stop - start).toNat tag ++ reached.tags.toList.drop stop.toNat ∧
        ∀ i : Nat, after.tags[i]? = reached.tags[i]?.map fun before =>
          if start ≤ i ∧ i < stop then tag else before) ∧
      (¬ (0 ≤ start ∧ start ≤ stop ∧ stop ≤ reached.length) →
        reached.setTag start stop tag = .error (.outside start stop reached.length) ∧
        after = reached) := by
  intro reached
  refine ⟨?_, fun _ => TagBuffer.canonical_iff, TagBuffer.runs_eq_nil_iff reached,
    fun start stop tag => ⟨fun hrange => ?_, fun hrange => ?_⟩⟩
  · rw [BufferOperation.length_performAll, length_create h]
  · obtain ⟨after, hafter, htags⟩ := TagBuffer.setTag_eq_ok tag hrange
    dsimp only [BufferOperation.perform]
    rw [hafter]
    exact ⟨rfl, htags⟩
  · dsimp only [BufferOperation.perform]
    rw [TagBuffer.setTag_eq_error tag hrange]
    exact ⟨rfl, rfl⟩

/-- A range is tagged, then one that ends beyond a buffer of five offsets, then
spans of which one does. -/
def BufferOperation.stumbling : List BufferOperation :=
  [.setTag 1 5 "a", .setTag 2 9 "b", .apply #['x', 'y', 'z'] TagBuffer.unevenSpans]

/-- The second range and the misfit among the spans are refused, and the runs are
canonical all the same. -/
theorem BufferOrigin.stumbling_runs :
    ∃ buffer, (BufferOrigin.ofLength 5).create = some buffer ∧
      let reached := BufferOperation.performAll buffer BufferOperation.stumbling
      reached.length = 5 ∧
        TagRun.Canonical reached.tags [⟨0, 2, "y"⟩, ⟨2, 4, "z"⟩, ⟨4, 5, "a"⟩] ∧
        ((BufferOperation.setTag 1 3 "f").perform reached).tags[2]? = some "f" ∧
        (BufferOperation.setTag 3 1 "f").perform reached = reached := by
  have hcreated : (BufferOrigin.ofLength 5).create = some (.blank 5) := rfl
  obtain ⟨hlength, hruns, -, hset⟩ := performAll_runs hcreated BufferOperation.stumbling
  obtain ⟨-, -, htags⟩ := (hset 1 3 "f").1 (by decide)
  refine ⟨.blank 5, hcreated, Int.ofNat_inj.mp hlength, (hruns _).mpr (by decide), ?_,
    ((hset 3 1 "f").2 (by decide)).2⟩
  rw [htags]
  rfl

end SourceLens
