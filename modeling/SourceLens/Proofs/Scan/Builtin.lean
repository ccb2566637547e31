import SourceLens.Proofs.Function.Headers
import SourceLens.Proofs.Scan.Reference

/-!
# Scans in the built-in languages

Two failures can stop a scan. One is a header that does not end in a brace, in a
language whose functions have blocks. In a registry whose headers open blocks
there is none, so extraction is quiet at every path. The other is a walk that is
barred, and no registry helps against it.

So in the built-in languages a scan whose walk is not barred runs to its end or
to a request to cancel, whatever is refused of the files in it, and what goes
wrong with a file shows as a skipped file (`Scanner.builtin_total`). A scan whose
walk is barred gives no result: a root with a name that is longer than the system
allows is enough (`Scanner.not_forall_scan_ok`).
-/

namespace SourceLens

namespace Scanner

variable {scanner : Scanner}

/-- Extraction is quiet where headers open blocks. -/
theorem quietAt_of_opensBlocks (h : scanner.registry.OpensBlocks) (path : Path) :
    scanner.QuietAt path := by
  intro cause
  unfold extracted Registry.extractFile
  split
  · exact fun heq => nomatch heq
  · split
    · exact fun heq => nomatch heq
    · rename_i language _ _ text _
      obtain ⟨functions, hfunctions⟩ :=
        h.extract_eq_ok text (some language) (.of path (some scanner.projectName))
      dsimp only
      rw [hfunctions]
      exact fun heq => nomatch heq

/-- **Nothing in a source file makes extraction or a scan fail** in the built-in
languages. Extraction gives a list for every text, language and path, since
every match of a header that opens a block ends right behind a brace. The scan
of a single file gives its event. A whole scan gives the events of its visits,
up to a request to cancel, and their result, if its walk is not barred; and what
keeps a visit from its file shows as a skipped file, with no functions. If the
walk is barred, the scan fails with its error and gives nothing. -/
theorem builtin_total (files : FileTree) (config : ScanConfig) :
    (∀ (text : Text) (language : Option String) (file : SourceFile),
      ∃ functions, (Registry.builtin.extract text language file).1 = .ok functions) ∧
    (∀ rule ∈ Registry.builtin.rules, ∀ functions, rule.functions = some functions →
      functions.style = .brace → ∀ (text : Text), ∀ m ∈ functions.header.findAll text,
        ∃ last, m.stop = last + 1 ∧ text.hasAt last '{' = true) ∧
    let scanner : Scanner := ⟨files, config, .builtin⟩
    (∀ path, (scanner.scanFile path).1 = .ok (scanner.eventOf ⟨path, none⟩)) ∧
    (¬ files.IsBarred config.root → ∃ visits, scanner.visits = .ok visits ∧ ∀ cancel,
      (scanner.course cancel).failure = none ∧
      (scanner.course cancel).events = (delivered cancel 0 visits).map scanner.eventOf ∧
      (scanner.scan cancel).result = .ok (.ofEvents config.root
        ((delivered cancel 0 visits).map scanner.eventOf)
        (requested cancel (delivered cancel 0 visits).length))) ∧
    (∀ v : Visit, (scanner.eventOf v).skipped = (scanner.obstacleOf? v).map (⟨v.path, ·⟩) ∧
      ((scanner.obstacleOf? v).isSome → (scanner.eventOf v).functions = [])) ∧
    (files.IsBarred config.root → ∃ error, files.walk config.root = .error error ∧ ∀ cancel,
      scanner.course cancel = ⟨[], [], false, some (.walk error)⟩ ∧
      (scanner.scan cancel).result = .error (.walk error)) := by
  have hopens := Registry.opensBlocks_builtin
  refine ⟨hopens.extract_eq_ok, fun rule hrule functions hfunctions hstyle text m hm =>
    (hopens rule hrule).hasAt hfunctions hstyle hm, ?_⟩
  intro scanner
  have hquiet (path : Path) : scanner.QuietAt path := quietAt_of_opensBlocks hopens path
  refine ⟨fun path => ?_, fun hopen => ?_, fun v => ?_, fun hbarred => ?_⟩
  · obtain ⟨notices, hvisit, -⟩ := @visit_eq scanner ⟨path, none⟩ fun _ => hquiet path
    exact congrArg Prod.fst hvisit
  · obtain ⟨visits, hvisits⟩ := (@exists_visits_iff scanner).mpr hopen
    refine ⟨visits, hvisits, fun cancel => ?_⟩
    obtain ⟨hfailure, hevents, -⟩ :=
      @courseFrom_eq scanner cancel 0 visits fun v _ _ => hquiet v.path
    rw [course_of_visits hvisits]
    exact ⟨hfailure, hevents, (scan_eq cancel hvisits fun v _ _ => hquiet v.path).2.1⟩
  · unfold eventOf
    cases scanner.obstacleOf? v with
    | none => exact ⟨rfl, fun hsome => nomatch hsome⟩
    | some reason => exact ⟨rfl, fun _ => rfl⟩
  · obtain ⟨error, hvisits, hscan⟩ := @scan_of_isBarred scanner hbarred
    refine ⟨error, visits_eq_error_iff.mp hvisits, fun cancel => ⟨(hscan cancel).1, ?_⟩⟩
    rw [(hscan cancel).2]

/-- **Not every scan has a result**, although extraction is quiet. -/
theorem not_forall_scan_ok : ¬ ∀ (files : FileTree) (config : ScanConfig),
    ∃ result, (Scanner.scan ⟨files, config, .builtin⟩ none).result = .ok result := by
  intro h
  obtain ⟨result, hresult⟩ := h overlong.files overlong.config
  exact result_overlong none result hresult

end Scanner

end SourceLens
