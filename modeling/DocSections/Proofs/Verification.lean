import DocSections.Command.Run
import DocSections.Proofs.FamilyFiles

/-! The command that verifies. It checks the catalog when it loads it or afterwards, and composes
family by family up to the first fault. It succeeds exactly if the catalog loads, the built-in
factories cover it, and it composes as a whole for every document type. -/

namespace DocSections

/-- A whole catalog composes for a document type if every family does that belongs to it. -/
theorem Registry.exists_composeCatalog_iff {r : Registry} {c : Catalog} {d : DocumentType} :
    (∃ schemas, r.composeCatalog c d = .ok schemas) ↔
      ∀ f ∈ c.families, f.appliesTo d = true → ∃ schema, r.composeFamily f d = .ok schema := by
  unfold composeCatalog Catalog.familiesFor
  rw [exists_mapM_eq_ok_iff]
  simp only [List.mem_filter, and_imp]

/-- A catalog is loaded as it is read, but only if it passes the verification that is wanted. -/
theorem Config.loadCatalog_eq_ok_iff {c : Config} {files : Files} {catalog : Catalog} :
    c.loadCatalog files = .ok catalog ↔ c.readCatalog files = .ok catalog ∧
      (c.verify = true → Registry.builtin.verify catalog = .ok ()) := by
  unfold loadCatalog
  cases c.readCatalog files with
  | error fault => simp
  | ok found =>
    cases c.verify with
    | false => simp
    | true =>
      simp only [if_true, Except.ok.injEq, forall_const]
      constructor
      · cases hverify : Registry.builtin.verify found with
        | error fault => nofun
        | ok _ =>
          rintro ⟨⟩
          exact ⟨rfl, hverify⟩
      · rintro ⟨rfl, hverify⟩
        rw [hverify]

namespace Command

theorem exists_familyLine_iff {f : Family} {d : DocumentType} :
    (∃ line, familyLine f d = .ok line) ↔
      (f.appliesTo d = true → ∃ schema, Registry.builtin.composeFamily f d = .ok schema) := by
  unfold familyLine
  cases f.appliesTo d with
  | false => simp
  | true => cases Registry.builtin.composeFamily f d <;> simp [bind, Except.bind]

theorem familyLines_snd_eq_none_iff {ps : List (Family × DocumentType)} :
    (familyLines ps).2 = none ↔ ∀ p ∈ ps, ∃ line, familyLine p.1 p.2 = .ok line := by
  induction ps with
  | nil => simp [familyLines]
  | cons p rest ih =>
    obtain ⟨f, d⟩ := p
    rw [List.forall_mem_cons, ← ih, familyLines]
    cases familyLine f d <;> simp

theorem mem_pairs {c : Catalog} {f : Family} {d : DocumentType} :
    (f, d) ∈ pairs c ↔ f ∈ c.families := by
  simp [pairs, Vocabulary.mem_values]

/-- Going family by family, with every document type for each, meets no fault exactly if going
document type by document type meets none. -/
theorem familyLines_pairs_snd_eq_none_iff {c : Catalog} : (familyLines (pairs c)).2 = none ↔
    ∀ d, ∃ schemas, Registry.builtin.composeCatalog c d = .ok schemas := by
  simp only [familyLines_snd_eq_none_iff, exists_familyLine_iff,
    Registry.exists_composeCatalog_iff, Prod.forall, mem_pairs]
  constructor
  · intro h d f hf
    exact h f d hf
  · intro h f d hf
    exact h d f hf

theorem runVerify_code_eq_zero_iff {s : Setup} : (runVerify s).code = 0 ↔
    (s.config.verify = false → Registry.builtin.verify s.catalog = .ok ()) ∧
      ∀ d, ∃ schemas, Registry.builtin.composeCatalog s.catalog d = .ok schemas := by
  have hlate : (if s.config.verify then .ok () else Registry.builtin.verify s.catalog) = .ok () ↔
      (s.config.verify = false → Registry.builtin.verify s.catalog = .ok ()) := by
    cases s.config.verify <;> simp
  rw [← hlate, ← familyLines_pairs_snd_eq_none_iff, runVerify]
  generalize (if s.config.verify then .ok () else Registry.builtin.verify s.catalog) = early
  cases early with
  | error fault => exact iff_of_false nofun nofun
  | ok _ =>
    rcases familyLines (pairs s.catalog) with ⟨lines, _ | fault⟩
    · exact iff_of_true rfl ⟨rfl, rfl⟩
    · exact iff_of_false nofun nofun

end Command

namespace Invocation

theorem setup_eq_ok_iff {i : Invocation} {files : Files} {e : Environment} {s : Command.Setup} :
    i.setup files e = .ok s ↔ ∃ loaded catalog, Config.load files e i.configFile = .ok loaded ∧
      (i.configured loaded).loadCatalog files = .ok catalog ∧
      s = ⟨files, i.configured loaded, catalog⟩ := by
  unfold setup
  cases Config.load files e i.configFile with
  | error fault => simp [Except.mapError, bind, Except.bind]
  | ok loaded =>
    cases hcatalog : (i.configured loaded).loadCatalog files with
    | error fault => simp [Except.mapError, bind, Except.bind, hcatalog]
    | ok catalog => simp [Except.mapError, bind, Except.bind, hcatalog, eq_comm]

theorem run_code_eq_zero_iff {i : Invocation} {files : Files} {e : Environment} :
    (i.run files e).code = 0 ↔ ∃ s, i.setup files e = .ok s ∧ (i.command.run s).code = 0 := by
  unfold run
  cases i.setup files e with
  | error fault => exact iff_of_false nofun nofun
  | ok s => simp

end Invocation

/-- Verifying succeeds exactly if the configuration and its catalog load, the built-in factories
cover the catalog, and it composes for both document types. It makes no difference whether the
catalog is verified when it is loaded. -/
theorem verify_succeeds_iff_composes {args : List String} {i : Invocation} {files : Files}
    {e : Environment} (hi : Invocation.ofArguments args = .ok i) (hverify : i.command = .verify) :
    (runProgram args files e).code = 0 ↔ ∃ loaded catalog,
      Config.load files e i.configFile = .ok loaded ∧
      (i.configured loaded).readCatalog files = .ok catalog ∧
      Registry.builtin.verify catalog = .ok () ∧
      ∀ d, ∃ schemas, Registry.builtin.composeCatalog catalog d = .ok schemas := by
  rw [runProgram, hi]
  simp only [Invocation.run_code_eq_zero_iff, Invocation.setup_eq_ok_iff,
    Config.loadCatalog_eq_ok_iff, hverify, Command.run]
  constructor
  · rintro ⟨_, ⟨loaded, catalog, hload, ⟨hread, hearly⟩, rfl⟩, hcode⟩
    obtain ⟨hlate, hcomposes⟩ := Command.runVerify_code_eq_zero_iff.mp hcode
    refine ⟨loaded, catalog, hload, hread, ?_, hcomposes⟩
    cases hwhen : (i.configured loaded).verify with
    | true => exact hearly hwhen
    | false => exact hlate hwhen
  · rintro ⟨loaded, catalog, hload, hread, hcovers, hcomposes⟩
    refine ⟨_, ⟨loaded, catalog, hload, ⟨hread, fun _ => hcovers⟩, rfl⟩, ?_⟩
    exact Command.runVerify_code_eq_zero_iff.mpr ⟨fun _ => hcovers, hcomposes⟩

/-- Without any file the embedded catalog is used. -/
def noFiles : Files := ⟨.emptyDirectory, []⟩

theorem embedded_catalog_composes : Invocation.ofArguments ["verify"] = .ok ⟨none, none, .verify⟩ ∧
    (runProgram ["verify"] noFiles []).code = 0 ∧
    ∃ loaded catalog, Config.load noFiles [] none = .ok loaded ∧
      ((⟨none, none, .verify⟩ : Invocation).configured loaded).readCatalog noFiles = .ok catalog ∧
      Registry.builtin.verify catalog = .ok () ∧
      ∀ d, ∃ schemas, Registry.builtin.composeCatalog catalog d = .ok schemas := by
  have harguments : Invocation.ofArguments ["verify"] = .ok ⟨none, none, .verify⟩ := by rfl
  have hcode : (runProgram ["verify"] noFiles []).code = 0 := by rfl
  exact ⟨harguments, hcode, (verify_succeeds_iff_composes harguments rfl).mp hcode⟩

end DocSections
