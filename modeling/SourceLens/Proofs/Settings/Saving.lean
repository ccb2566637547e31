import SourceLens.Proofs.Files.Writing
import SourceLens.Proofs.Json.Ascii
import SourceLens.Proofs.Json.RoundTrip
import SourceLens.Proofs.Settings.Loading
import SourceLens.Proofs.Text.Utf8

/-!
# Settings survive a save

What is saved is loaded again, without a warning, as long as the number among
the settings has no more digits than are read; and the number of loaded settings
never has more. So settings that have been loaded are the same after they have
been saved and loaded again, whatever the settings file held before
(`Settings.load_save`).
-/

namespace SourceLens.Settings

open Json

variable {files after : FileTree} {path folder : Path} {settings : Settings}

/-! ## The document -/

/-- Settings are written as a value that is read back. -/
theorem exact_members (h : settings.largestFile < 10 ^ Reader.mostDigits) :
    Exact (.obj settings.members) := by
  have hnames : settings.members.map (·.1)
      = ["default_language", "skip_dirs", "max_file_size", "color"] := rfl
  refine .obj (by rw [hnames]; decide) ?_
  simp only [members, List.forall_mem_cons]
  refine ⟨.str _, .arr ?_, .int ?_, .bool _, fun _ hm => nomatch hm⟩
  · intro item hitem
    obtain ⟨pattern, -, rfl⟩ := List.mem_map.mp hitem
    exact .str pattern
  · rwa [Int.natAbs_natCast]

/-- **The document of exact members is read back from its file.** -/
theorem value?_of_entry {members : List (String × Json)} (hexact : Exact (.obj members))
    (hentry : files.entry path = .ok (.file (Utf8.encode (document members))))
    (hreadable : files.refusals.reading path = none) :
    value? files path = some (.obj members) := by
  have hreturn : '\r' ∉ Text.ofString (document members) := by
    intro hmem
    have hplain := plain_of_mem_pretty (.obj members) '\r' (by
      simpa [Text.ofString, document] using hmem)
    revert hplain
    unfold IsPlain
    decide
  have hread : Json.read (Text.ofString (document members)).toList = .ok (.obj members) :=
    read_pretty hexact
  have hoctets : (files.readOctets path).toOption = some (Utf8.encode (document members)) := by
    rw [FileTree.readOctets, hreadable, FileTree.access, hentry]
    rfl
  rw [value?, hoctets]
  simp only [bind, Option.bind_some]
  rw [Utf8.decode?_encode, Option.bind_some, LineBreak.normalize_of_not_mem hreturn, hread]
  rfl

/-- A setting that an object has is the setting. -/
theorem setting_of_member? {α : Type} {object : Json} {name : String} {valid : Json → Option α}
    {value : Json} {chosen : α} (hmember : object.member? name = some value)
    (hvalid : valid value = some chosen) (path : Path) (default : α) :
    setting path object name valid default = (chosen, []) := by
  rw [setting, hmember]
  dsimp only
  rw [hvalid]

/-- **Settings are what their members say.** -/
theorem ofObject_members (path : Path) (settings : Settings) :
    ofObject path (.obj settings.members) = (settings, []) := by
  have hlanguage : setting path (.obj settings.members) "default_language" Json.string?
      ({} : Settings).defaultLanguage = (settings.defaultLanguage, []) :=
    setting_of_member? rfl ((checks_string? _ _).mpr rfl) path _
  have hpatterns : setting path (.obj settings.members) "skip_dirs" strings?
      ({} : Settings).skipPatterns = (settings.skipPatterns, []) :=
    setting_of_member? rfl ((checks_strings? _ _).mpr rfl) path _
  have hlargest : setting path (.obj settings.members) "max_file_size" size?
      ({} : Settings).largestFile = (settings.largestFile, []) :=
    setting_of_member? rfl ((checks_size? _ _).mpr rfl) path _
  have hcolour : setting path (.obj settings.members) "color" Json.bool?
      ({} : Settings).colour = (settings.colour, []) :=
    setting_of_member? rfl ((checks_bool? _ _).mpr rfl) path _
  unfold ofObject
  dsimp only
  rw [hlanguage, hpatterns, hlargest, hcolour]
  rfl

/-! ## Saving and loading -/

/-- **What has been saved is loaded**, without a warning. -/
theorem load_of_save (h : settings.save files path = .ok after)
    (hsize : settings.largestFile < 10 ^ Reader.mostDigits)
    (hreadable : files.refusals.reading path = none) : load after path = (settings, []) := by
  obtain ⟨hentry, hrefusals⟩ := FileTree.entry_of_write h
  have hvalue := value?_of_entry (exact_members hsize) hentry (hrefusals ▸ hreadable)
  rw [load, exists?_of_value? hvalue, hvalue]
  exact ofObject_members path settings

/-- What cannot be read gives the default settings. -/
theorem load_of_refused {cause : SystemError} (h : files.refusals.reading path = some cause) :
    (load files path).1 = {} := by
  have hbound : boundIn? files path = none := by
    rw [boundIn?, FileTree.readOctets, h]
    rfl
  rw [load_of_boundIn?_eq_none hbound]

/-- An integer that a settings file binds is short enough to be read again. -/
theorem short_of_lastBound? {bindings : List (String × Json)} {name : String} {n : Int}
    (h : boundIn? files path = some bindings) (hlast : lastBound? bindings name = some (.int n)) :
    n.natAbs < 10 ^ Reader.mostDigits := by
  obtain ⟨octets, -, hoctets⟩ := Option.bind_eq_some_iff.mp h
  obtain ⟨text, -, htext⟩ := Option.bind_eq_some_iff.mp hoctets
  obtain ⟨before, behind, hreverse, -⟩ := List.lookup_eq_some_iff.mp hlast
  have hmem : (name, Json.int n) ∈ bindings := by
    rw [← List.mem_reverse, hreverse]
    simp
  exact (isRead_of_bindings? htext _ hmem).short

/-- The default number is short enough to be read again. -/
theorem largestFile_default_lt : ({} : Settings).largestFile < 10 ^ Reader.mostDigits :=
  calc ({} : Settings).largestFile < 10 ^ 7 := by decide
    _ ≤ 10 ^ Reader.mostDigits := Nat.pow_le_pow_right (by decide) (by decide)

/-- **The number of loaded settings is short enough to be read again.** -/
theorem largestFile_load_lt (files : FileTree) (path : Path) :
    (load files path).1.largestFile < 10 ^ Reader.mostDigits := by
  have hdefault := largestFile_default_lt
  cases hbound : boundIn? files path with
  | none =>
    rw [load_of_boundIn?_eq_none hbound]
    exact hdefault
  | some bindings =>
    have hcounted : some (counted "max_file_size" (lastBound? bindings "max_file_size")
        (.int ({} : Settings).largestFile)) = some (.int (load files path).1.largestFile) := by
      have hlookup : (load files path).1.members.lookup "max_file_size"
          = some (.int (load files path).1.largestFile) := rfl
      rw [(load_of_boundIn? hbound).1, lookup_map_counted] at hlookup
      exact hlookup
    unfold counted at hcounted
    split at hcounted
    · rename_i value hlast
      split at hcounted
      · rw [Option.some.inj hcounted] at hlast
        have hshort := short_of_lastBound? hbound hlast
        rwa [Int.natAbs_natCast] at hshort
      · rw [← Int.ofNat.inj (Json.int.inj (Option.some.inj hcounted))]
        exact hdefault
    · rw [← Int.ofNat.inj (Json.int.inj (Option.some.inj hcounted))]
      exact hdefault

/-- **Settings survive a save.** Settings with a number that is short enough can
be saved exactly if there is a place for their file, and what has been saved is
loaded again, every field of it and without a warning. Loaded settings have such
a number, whatever is in their file; and saved and loaded again, they are the
same. There always is a place for a settings file where one has been.

Loaded strings are of characters, as all strings are: of half a surrogate pair
that a file escapes by itself, which is no character, U+FFFD is loaded
(`Json.Reader.ofUnit`), and it is this character that is saved. -/
theorem load_save (files : FileTree) (folder : Path) :
    (∀ settings : Settings, settings.largestFile < 10 ^ 4300 →
      ((∃ after, settings.save files (fileIn folder) = .ok after) ↔
        files.HasPlaceFor (fileIn folder)) ∧
      ∀ after, settings.save files (fileIn folder) = .ok after →
        files.refusals.reading (fileIn folder) = none →
        load after (fileIn folder) = (settings, [])) ∧
    (load files (fileIn folder)).1.largestFile < 10 ^ 4300 ∧
    (∀ after, (load files (fileIn folder)).1.save files (fileIn folder) = .ok after →
      (load after (fileIn folder)).1 = (load files (fileIn folder)).1) ∧
    (∀ content, files.entry (fileIn folder) = .ok (.file content) →
      files.HasPlaceFor (fileIn folder)) := by
  have hdigits : Reader.mostDigits = 4300 := rfl
  rw [← hdigits]
  have hloaded := largestFile_load_lt files (fileIn folder)
  refine ⟨fun settings hsize => ⟨FileTree.exists_write_iff, ?_⟩, hloaded, ?_, ?_⟩
  · intro after hsave hreadable
    exact load_of_save hsave hsize hreadable
  · intro after hsave
    cases hreading : files.refusals.reading (fileIn folder) with
    | none => rw [load_of_save hsave hloaded hreading]
    | some cause =>
      have hafter : after.refusals.reading (fileIn folder) = some cause := by
        rw [(FileTree.entry_of_write hsave).2]
        exact hreading
      rw [load_of_refused hafter, load_of_refused hreading]
  · exact fun content hentry => FileTree.hasPlaceFor_of_entry hentry

/-- The files of a user who has no settings yet, and no folder for them. -/
def newUser : FileTree where
  root := .folder [("base", .folder [("w", .folder [])])]
  workingDirectory := ["base", "w"]
  refusals := .empty

/-- The first settings of a user are saved in a folder that is made for them. -/
theorem load_save_newUser : ∃ after,
    ({ colour := false } : Settings).save newUser (fileIn ⟨.relative, ["..", "home"]⟩) = .ok after ∧
      load after (fileIn ⟨.relative, ["..", "home"]⟩) = ({ colour := false }, []) := by
  have hdigits : Reader.mostDigits = 4300 := rfl
  have hsize := largestFile_default_lt
  rw [hdigits] at hsize
  obtain ⟨-, hload⟩ := (load_save newUser ⟨.relative, ["..", "home"]⟩).1 { colour := false } hsize
  exact ⟨_, rfl, hload _ rfl rfl⟩

end SourceLens.Settings
