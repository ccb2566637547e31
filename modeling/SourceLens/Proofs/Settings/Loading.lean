import Mathlib.Tactic.Common
import SourceLens.Proofs.Json.Bindings
import SourceLens.Settings.Basic

/-!
# Loading settings field by field

Each setting has a strict type, told apart by the name of the setting
(`Settings.StrictlyTyped`). Whatever stands in a settings file, each loaded
setting has its type: it is the value that the file binds last to its name if
that has the type, and the default otherwise (`Settings.load_fieldwise`). A file
that is no object gives the defaults and one warning; an object gives one
warning for each value that does not count, in the order of the settings.
-/

namespace SourceLens.Settings

open Json

/-! ## The types of the settings -/

/-- **A value that the setting of a name may have.** -/
inductive StrictlyTyped : String → Json → Prop where
  | defaultLanguage (language : String) : StrictlyTyped "default_language" (.str language)
  | skipPatterns (patterns : List String) :
      StrictlyTyped "skip_dirs" (.arr (patterns.map .str))
  | largestFile (octets : Nat) : StrictlyTyped "max_file_size" (.int octets)
  | colour (shown : Bool) : StrictlyTyped "color" (.bool shown)

/-- A check takes exactly the values that settings are written as. -/
def Checks {α : Type} (valid : Json → Option α) (written : α → Json) : Prop :=
  ∀ value setting, valid value = some setting ↔ value = written setting

theorem checks_string? : Checks Json.string? Json.str := by
  intro value setting
  cases value <;> simp [Json.string?]

theorem checks_bool? : Checks Json.bool? Json.bool := by
  intro value setting
  cases value <;> simp [Json.bool?]

/-- An integer that is not negative is a natural number. -/
theorem checks_size? : Checks size? fun octets : Nat => .int octets := by
  intro value setting
  cases value with
  | int n =>
    simp only [size?, Option.ite_none_right_eq_some, Option.some.injEq, Json.int.injEq]
    omega
  | _ => simp [size?]

/-- A list of strings is checked item by item. -/
theorem checks_strings? : Checks strings? fun patterns => .arr (patterns.map .str) := by
  have hitems : ∀ (items : List Json) (patterns : List String),
      items.mapM Json.string? = some patterns ↔ items = patterns.map .str := by
    intro items
    induction items with
    | nil => simp [eq_comm]
    | cons item items ih =>
      intro patterns
      simp only [List.mapM_cons, bind, Option.bind_eq_some_iff, pure, Option.some.injEq, ih,
        checks_string? item]
      constructor
      · rintro ⟨first, rfl, later, rfl, rfl⟩
        rfl
      · intro heq
        cases patterns with
        | nil => cases heq
        | cons first later =>
          obtain ⟨rfl, rfl⟩ := List.cons.inj heq
          exact ⟨first, rfl, later, rfl, rfl⟩
  intro value setting
  cases value with
  | arr items =>
    show items.mapM Json.string? = some setting ↔ _
    rw [hitems, Json.arr.injEq]
  | _ => simp [strings?, Json.items?]

/-- The four checks, each for its own name. -/
theorem strictlyTyped_iff {name : String} {value : Json} : StrictlyTyped name value ↔
    (name = "default_language" ∧ (value.string?).isSome) ∨
    (name = "skip_dirs" ∧ (strings? value).isSome) ∨
    (name = "max_file_size" ∧ (size? value).isSome) ∨
    (name = "color" ∧ (value.bool?).isSome) := by
  simp only [Option.isSome_iff_exists, checks_string? value, checks_strings? value,
    checks_size? value, checks_bool? value]
  constructor
  · rintro (⟨language⟩ | ⟨patterns⟩ | ⟨octets⟩ | ⟨shown⟩)
    · exact .inl ⟨rfl, _, rfl⟩
    · exact .inr (.inl ⟨rfl, _, rfl⟩)
    · exact .inr (.inr (.inl ⟨rfl, _, rfl⟩))
    · exact .inr (.inr (.inr ⟨rfl, _, rfl⟩))
  · rintro (⟨rfl, _, rfl⟩ | ⟨rfl, _, rfl⟩ | ⟨rfl, _, rfl⟩ | ⟨rfl, _, rfl⟩)
    · exact .defaultLanguage _
    · exact .skipPatterns _
    · exact .largestFile _
    · exact .colour _

instance decidableStrictlyTyped (name : String) (value : Json) :
    Decidable (StrictlyTyped name value) :=
  decidable_of_iff' _ strictlyTyped_iff

/-! ## One setting -/

/-- **The value that counts** for the setting of a name, if some value or none
is bound to it. -/
def counted (name : String) (bound : Option Json) (default : Json) : Json :=
  match bound with
  | some value => if StrictlyTyped name value then value else default
  | none => default

/-- **The warning about the value** of a setting, if it is there and does not
count. -/
def complaint (path : Path) (name : String) (bound : Option Json) : List Notice :=
  match bound with
  | some value => if StrictlyTyped name value then [] else [.settingInvalid name value.shown path]
  | none => []

/-- The value of a name is the one that counts of those bound to it. -/
theorem lookup_map_counted (last : String → Option Json) (defaults : List (String × Json))
    (name : String) :
    (defaults.map fun (name, default) => (name, counted name (last name) default)).lookup name
      = (defaults.lookup name).map (counted name (last name)) := by
  induction defaults with
  | nil => rfl
  | cons first defaults ih =>
    obtain ⟨firstName, default⟩ := first
    by_cases hname : name = firstName
    · rw [List.map_cons, hname, List.lookup_cons_self, List.lookup_cons_self]
      rfl
    · rw [List.map_cons, lookup_cons_of_ne hname, lookup_cons_of_ne hname, ih]

/-- **One setting** is the value that counts, with the warning about the value
if it does not. -/
theorem setting_eq {α : Type} {valid : Json → Option α} {written : α → Json}
    (hvalid : Checks valid written) (name : String)
    (htyped : ∀ value, StrictlyTyped name value ↔ ∃ setting, value = written setting)
    (path : Path) (object : Json) (default : α) :
    written (setting path object name valid default).1
        = counted name (object.member? name) (written default) ∧
      (setting path object name valid default).2
        = complaint path name (object.member? name) := by
  unfold setting counted complaint
  cases object.member? name with
  | none => exact ⟨rfl, rfl⟩
  | some value =>
    dsimp only
    cases hchecked : valid value with
    | some setting =>
      have hvalue := (hvalid value setting).mp hchecked
      have hvalueTyped := (htyped value).mpr ⟨setting, hvalue⟩
      rw [if_pos hvalueTyped, if_pos hvalueTyped]
      exact ⟨hvalue.symm, rfl⟩
    | none =>
      have huntyped : ¬ StrictlyTyped name value := by
        rw [htyped]
        rintro ⟨setting, hvalue⟩
        rw [(hvalid value setting).mpr hvalue] at hchecked
        cases hchecked
      rw [if_neg huntyped, if_neg huntyped]
      exact ⟨rfl, rfl⟩

/-! ## All settings -/

/-- **The settings of an object**: of each name the value that counts, and the
warnings in the order of the settings. -/
theorem ofObject_eq (path : Path) (object : Json) :
    (ofObject path object).1.members
        = ({} : Settings).members.map (fun (name, default) =>
            (name, counted name (object.member? name) default)) ∧
      (ofObject path object).2
        = ({} : Settings).members.flatMap fun (name, _) =>
            complaint path name (object.member? name) := by
  obtain ⟨hlanguage, hlanguageNotices⟩ := setting_eq checks_string? "default_language"
    (fun value => by simp [strictlyTyped_iff, Option.isSome_iff_exists, checks_string? value])
    path object ({} : Settings).defaultLanguage
  obtain ⟨hpatterns, hpatternsNotices⟩ := setting_eq checks_strings? "skip_dirs"
    (fun value => by simp [strictlyTyped_iff, Option.isSome_iff_exists, checks_strings? value])
    path object ({} : Settings).skipPatterns
  obtain ⟨hlargest, hlargestNotices⟩ := setting_eq checks_size? "max_file_size"
    (fun value => by simp [strictlyTyped_iff, Option.isSome_iff_exists, checks_size? value])
    path object ({} : Settings).largestFile
  obtain ⟨hcolour, hcolourNotices⟩ := setting_eq checks_bool? "color"
    (fun value => by simp [strictlyTyped_iff, Option.isSome_iff_exists, checks_bool? value])
    path object ({} : Settings).colour
  constructor
  · simp only [members, List.map_cons, List.map_nil, ← hlanguage, ← hpatterns, ← hlargest,
      ← hcolour]
    rfl
  · simp only [members, List.flatMap_cons, List.flatMap_nil, ← hlanguageNotices,
      ← hpatternsNotices, ← hlargestNotices, ← hcolourNotices]
    simp [ofObject]

/-! ## Settings files -/

/-- **What a settings file binds**, one after the other, if it is an object. -/
def boundIn? (files : FileTree) (path : Path) : Option (List (String × Json)) := do
  let octets ← (files.readOctets path).toOption
  let text ← Utf8.decode? octets
  Json.bindings? (LineBreak.normalize text).toList

/-- **The value that is bound last** to a name. -/
def lastBound? (bindings : List (String × Json)) (name : String) : Option Json :=
  bindings.reverse.lookup name

variable {files : FileTree} {path : Path} {bindings : List (String × Json)}

/-- The value of a settings file is an object exactly if it binds something, or
nothing at all. -/
theorem value?_eq_obj_iff {members : List (String × Json)} :
    value? files path = some (.obj members) ↔
      ∃ bindings, boundIn? files path = some bindings ∧ members = ofBindings bindings := by
  have hread : ∀ cs : List Char, (Json.read cs).toOption = some (.obj members) ↔
      ∃ bindings, Json.bindings? cs = some bindings ∧ members = ofBindings bindings := by
    intro cs
    rw [← read_eq_obj_iff]
    cases Json.read cs <;> simp [Except.toOption]
  unfold value? boundIn?
  cases (files.readOctets path).toOption with
  | none => simp
  | some octets =>
    simp only [bind, Option.bind_some]
    cases Utf8.decode? octets with
    | none => simp
    | some text => exact hread _

/-- What can be read is there. -/
theorem exists?_of_value? {value : Json} (h : value? files path = some value) :
    files.exists? path = true := by
  obtain ⟨octets, hoctets, -⟩ := Option.bind_eq_some_iff.mp h
  unfold FileTree.exists?
  unfold FileTree.readOctets FileTree.access at hoctets
  cases hrefusal : files.refusals.reading path with
  | some cause =>
    rw [hrefusal] at hoctets
    cases hoctets
  | none =>
    rw [hrefusal] at hoctets
    cases hentry : files.entry path with
    | ok entry => rfl
    | error problem =>
      rw [hentry] at hoctets
      cases hoctets

/-- **Settings that are an object** are loaded name by name. -/
theorem load_of_boundIn? (h : boundIn? files path = some bindings) :
    (load files path).1.members
        = ({} : Settings).members.map (fun (name, default) =>
            (name, counted name (lastBound? bindings name) default)) ∧
      (load files path).2
        = ({} : Settings).members.flatMap fun (name, _) =>
            complaint path name (lastBound? bindings name) := by
  have hvalue : value? files path = some (.obj (ofBindings bindings)) :=
    value?_eq_obj_iff.mpr ⟨bindings, h, rfl⟩
  have hload : load files path = ofObject path (.obj (ofBindings bindings)) := by
    rw [load, exists?_of_value? hvalue, hvalue]
    rfl
  have hlast : ∀ name, (Json.obj (ofBindings bindings)).member? name = lastBound? bindings name :=
    fun name => lookup_ofBindings bindings name
  obtain ⟨hmembers, hnotices⟩ := ofObject_eq path (.obj (ofBindings bindings))
  simp only [hlast] at hmembers hnotices
  rw [hload]
  exact ⟨hmembers, hnotices⟩

/-- **Settings that are no object** are the defaults. -/
theorem load_of_boundIn?_eq_none (h : boundIn? files path = none) :
    load files path = ({}, if !files.exists? path then []
      else if (value? files path).isNone then [.settingsUnreadable path]
      else [.settingsNoObject path]) := by
  unfold load
  split
  · rfl
  · cases hvalue : value? files path with
    | none => rfl
    | some value =>
      cases value with
      | obj members =>
        obtain ⟨bindings, hbindings, -⟩ := value?_eq_obj_iff.mp hvalue
        rw [h] at hbindings
        cases hbindings
      | _ => rfl

end SourceLens.Settings
