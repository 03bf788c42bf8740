import DocSections.Proofs.Coverage
import DocSections.Proofs.Forest
import DocSections.Proofs.Success
import DocSections.Proofs.Verification

/-! The command that validates a section. It takes a section of the family that is not in the index
for one that is omitted. In a catalog that loads and is covered, the index lacks the sections that
are omitted or placeholders, those under them, and no others. -/

namespace DocSections

namespace Catalog

theorem sound_of_ofDirectory {files : Files} {path : String} {c : Catalog}
    (h : ofDirectory files path = .ok c) : c.Sound := by
  obtain ⟨entries, hentries⟩ : ∃ entries, ofEntries path entries = .ok c := by
    unfold ofDirectory at h
    split at h
    · cases h
    · exact ⟨[], h⟩
    · exact ⟨_, h⟩
  unfold ofEntries at hentries
  cases hread : readEntries path (Assoc.ofPairs entries) with
  | error fault => simp [hread, bind, Except.bind] at hentries
  | ok families =>
    simp only [hread, bind, Except.bind] at hentries
    cases hfamilies : ofFamilies families with
    | error fault => simp [hfamilies] at hentries
    | ok loaded =>
      rw [hfamilies] at hentries
      cases hentries
      exact sound_of_ofFamilies hfamilies

theorem sound_builtin : builtin.Sound := by
  have hbuilt : ofFamilies builtin.families = .ok builtin := by rfl
  exact sound_of_ofFamilies hbuilt

theorem Sound.of_family? {c : Catalog} (h : c.Sound) {n : UInt32} {f : Family}
    (hf : c.family? n = some f) : f.id = n ∧ f.checkStructure = .ok () ∧ f ∈ c.families := by
  have hmem : (n, f) ∈ c.byId.entries := Assoc.mem_of_find? hf
  obtain ⟨hid, hsound⟩ := h _ hmem
  exact ⟨hid.symm, hsound, List.mem_map_of_mem hmem⟩

end Catalog

theorem Config.sound_of_readCatalog {c : Config} {files : Files} {catalog : Catalog}
    (h : c.readCatalog files = .ok catalog) : catalog.Sound := by
  unfold readCatalog at h
  split at h
  · exact Catalog.sound_of_ofDirectory h
  · cases h
    exact Catalog.sound_builtin

namespace Section

theorem applies_iff_isLeftOut_eq_false {s : Section} {d : DocumentType} (h : s.Declares d) :
    s.Applies d ↔ s.isLeftOut d = false := by
  constructor
  · intro ha
    rw [Bool.eq_false_iff]
    exact fun hout => not_applies_of_isLeftOut hout ha
  · intro hin
    rw [isLeftOut, Bool.or_eq_false_iff, beq_eq_false_iff_ne] at hin
    obtain ⟨a, ha⟩ := Option.isSome_iff_exists.mp (h hin.1)
    rw [applies_iff_ne_omitted hin.1 ha]
    rintro rfl
    exact hin.2 ha

end Section

namespace Family

variable {f : Family} {d : DocumentType} {s : Section} {id : String}

/-- The section with an id and the sections that lie above it. -/
def lineage (f : Family) (id : String) : List Section :=
  f.sections.filter fun t => id == t.id || SectionId.isUnder id t.id

theorem cutsOff_iff_lineage : f.cutsOff d id = true ↔
    ∃ t ∈ f.lineage id, t.isPlaceholder = true ∨ t.applicability.get? d = some .omitted := by
  simp only [cutsOff_iff, lineage, List.mem_filter, Bool.or_eq_true, beq_iff_eq,
    Section.isLeftOut_iff]
  constructor
  · rintro ⟨t, ht, hout, hid⟩
    exact ⟨t, ⟨ht, hid⟩, hout⟩
  · rintro ⟨t, ⟨ht, hid⟩, hout⟩
    exact ⟨t, ht, hout, hid⟩

theorem cutsOff_of_parent {p : Section} (hs : s ∈ f.childrenOf p.id)
    (hp : f.cutsOff d p.id = true) : f.cutsOff d s.id = true := by
  obtain ⟨t, ht, hout, habove⟩ := cutsOff_iff.mp hp
  have hunder := (SectionId.isUnder_of_parent? (mem_childrenOf.mp hs).2 t.id).mpr
    (habove.imp_left Eq.symm)
  exact cutsOff_iff.mpr ⟨t, ht, hout, .inr hunder⟩

theorem Reached.cutsOff_eq_false (hf : f.checkStructure = .ok ()) (h : f.Reached d s) :
    f.cutsOff d s.id = false := by
  have step {parent : String} {t : Section} (hparent : f.cutsOff d parent = false)
      (ht : t ∈ f.childrenOf parent) (ha : t.Applies d) : f.cutsOff d t.id = false := by
    rw [cutsOff_child hf hparent ht]
    exact (Section.applies_iff_isLeftOut_eq_false ha.declares).mp ha
  induction h with
  | top hs ha => exact step (not_cutsOff_rootId hf) hs ha
  | child _ _ hs ha ih => exact step ih hs ha

/-- Where every section declares what it is, those that are not cut off are reached: parents lead
from each to the root, and none of them is cut off. -/
theorem reached_of_cutsOff_eq_false (hf : f.checkStructure = .ok ())
    (hdeclares : ∀ t ∈ f.sections, t.Declares d) (hs : s ∈ f.sections)
    (h : f.cutsOff d s.id = false) : f.Reached d s := by
  have applies {parent : String} {t : Section} (hparent : f.cutsOff d parent = false)
      (ht : t ∈ f.childrenOf parent) (hin : f.cutsOff d t.id = false) : t.Applies d := by
    rw [cutsOff_child hf hparent ht] at hin
    exact (Section.applies_iff_isLeftOut_eq_false (hdeclares t (mem_childrenOf.mp ht).1)).mpr hin
  induction rooted_of_checkStructure hf hs with
  | top hparent =>
    have hchild := mem_childrenOf.mpr ⟨hs, hparent⟩
    exact .top hchild (applies (not_cutsOff_rootId hf) hchild h)
  | @under s p hparent hp _ ih =>
    have hchild : s ∈ f.childrenOf p.id := mem_childrenOf.mpr ⟨hs, hparent⟩
    have hp' : f.cutsOff d p.id = false := by
      rw [Bool.eq_false_iff] at h ⊢
      exact fun hcut => h (cutsOff_of_parent hchild hcut)
    exact .child (ih hp hp') trivial hchild (applies hp' hchild h)

end Family

namespace Registry

/-- Given to one family after the other, the built-in tables share no shape. -/
theorem unshared_builtin (family : UInt32) : builtin.Unshared family := by
  have add {r : Registry} {changed : UInt32} {pairs : List (String × Factory)}
      (hr : r.Unshared family) (hall : ∀ e ∈ pairs, e.2.isShared = false) :
      (r.withTable changed (.ofPairs pairs)).Unshared family :=
    forall_factory_withTable (P := fun factory => factory.isShared = false) hr hall
  exact add (add (add (add forall_factory_empty (by decide)) (by decide)) (by decide)) (by decide)

variable {r : Registry} {f : Family} {d : DocumentType} {schema : FamilySchema} {id : String}

/-- The index of a family that is covered holds the sections that are not cut off. -/
theorem section?_isSome_iff (hf : f.checkStructure = .ok ()) (hr : r.Unshared f.id)
    (hcovers : ∀ s ∈ f.sections, r.Covers f.id s) (h : r.composeFamily f d = .ok schema) :
    (schema.section? id).isSome = true ↔
      (f.section? id).isSome = true ∧ f.cutsOff d id = false := by
  have hindex : (schema.section? id).isSome = true ↔ ∃ s, f.Reached d s ∧ s.id = id := by
    rw [← mem_keys_byId_iff hr h, ← OrderedMap.contains_iff_mem_keys]
    rfl
  rw [hindex]
  constructor
  · rintro ⟨s, hs, rfl⟩
    rw [Family.section?_eq_some_of_mem hf hs.mem]
    exact ⟨rfl, hs.cutsOff_eq_false hf⟩
  · rintro ⟨hsome, hin⟩
    obtain ⟨s, hs⟩ := Option.isSome_iff_exists.mp hsome
    have hmem := List.mem_of_find?_eq_some hs
    have hid : s.id = id := by simpa using List.find?_some hs
    subst hid
    have hdeclares : ∀ t ∈ f.sections, t.Declares d := fun t ht hp => (hcovers t ht hp).1 d
    exact ⟨s, Family.reached_of_cutsOff_eq_false hf hdeclares hmem hin, rfl⟩

end Registry

section

variable {n : UInt32} {id : String} {d : DocumentType}

theorem CommandFault.message_unknownSection :
    (schema (.unknownSection n id)).message =
      "Section not found: " ++ id ++ " in family " ++ toString n.toNat :=
  rfl

theorem CommandFault.message_omitted :
    (omitted id d).message = "Section " ++ id ++ " is omitted for " ++ d.name ++ " documents" :=
  rfl

end

namespace RunResult

variable {n : UInt32} {id : String} {d : DocumentType}

theorem message_eq_of_failure_eq {output other : String} {fault fault' : CommandFault}
    (h : failure output fault = failure other fault') : fault.message = fault'.message := by
  have herrors := congrArg RunResult.errors h
  simpa [failure] using herrors

theorem failure_unknownSection : failure "" (.schema (.unknownSection n id)) =
    ⟨1, "", "Error: Section not found: " ++ id ++ " in family " ++ toString n.toNat ++ "\n"⟩ := by
  have htext : "Error: Section not found: " = "Error: " ++ "Section not found: " := by decide
  rw [failure, CommandFault.message_unknownSection, htext]
  simp only [String.append_assoc]

theorem failure_omitted : failure "" (.omitted id d) =
    ⟨1, "", "Error: Section " ++ id ++ " is omitted for " ++ d.name ++ " documents\n"⟩ := by
  have htext : "Error: Section " = "Error: " ++ "Section " := by decide
  have hend : " documents\n" = " documents" ++ "\n" := by decide
  rw [failure, CommandFault.message_omitted, htext, hend]
  simp only [String.append_assoc]

/-- What is said of an unknown section ends in a digit, what is said of an omitted one in a word. -/
theorem unknown_ne_omitted :
    failure "" (.schema (.unknownSection n id)) ≠ failure "" (.omitted id d) := by
  intro h
  have hdocuments : " documents".toList.getLast? = some 's' := by rfl
  have hmessage := message_eq_of_failure_eq h
  rw [CommandFault.message_unknownSection, CommandFault.message_omitted] at hmessage
  have hlast := congrArg (fun m => m.toList.getLast?) hmessage
  simp only [String.toList_append, List.getLast?_append, hdocuments, Option.some_or,
    Nat.toString_eq_repr, Nat.toList_repr] at hlast
  cases hdigits : (Nat.toDigits 10 n.toNat).getLast? with
  | none => exact Nat.toDigits_ne_nil (List.getLast?_eq_none_iff.mp hdigits)
  | some c =>
    rw [hdigits, Option.some_or, Option.some.injEq] at hlast
    have hdigit := Nat.isDigit_of_mem_toDigits (by decide) (by decide)
      (List.mem_of_getLast? hdigits)
    rw [hlast] at hdigit
    exact absurd hdigit (by decide)

theorem report_ne_failure (s : Command.Setup) (sectionId : Option String)
    (outcome : Except (List Issue) Json) (output : String) (fault : CommandFault) :
    Command.report s n d sectionId outcome ≠ failure output fault := by
  intro h
  have herrors := congrArg RunResult.errors h
  cases outcome <;> simp [Command.report, success, failure] at herrors

end RunResult

section

variable {args : List String} {i : Invocation} {files : Files} {e : Environment} {n : UInt32}
  {d : DocumentType} {id file : String} {s : Command.Setup} {f : Family} {schema : FamilySchema}
  {content : Json}

/-- A section that the family does not have is unknown; one that it has is validated if it is in the
index, and otherwise said to be omitted. -/
theorem Command.check_section (id : String) (content : Json)
    (hf : s.catalog.family? schema.family = some f) :
    check s schema (some id) content =
      match f.section? id, schema.validateSection? id content with
      | none, _ => .error (.schema (.unknownSection schema.family id))
      | some _, none => .error (.omitted id schema.documentType)
      | some _, some outcome => .ok outcome := by
  simp only [check, Catalog.knownSection, Catalog.knownFamily, hf, bind, Except.bind]
  cases f.section? id with
  | none => rfl
  | some t => cases schema.validateSection? id content <;> rfl

theorem runProgram_validate (hi : Invocation.ofArguments args = .ok i)
    (hcommand : i.command = .validate n d (some id) file) (hs : i.setup files e = .ok s)
    (hf : s.catalog.family? n = some f) (hid : f.id = n)
    (hschema : Registry.builtin.composeFamily f d = .ok schema)
    (hcontent : Command.readContent files file = .ok content) :
    runProgram args files e =
      match f.section? id, schema.validateSection? id content with
      | none, _ => .failure "" (.schema (.unknownSection n id))
      | some _, none => .failure "" (.omitted id d)
      | some _, some outcome => Command.report s n d (some id) outcome := by
  obtain ⟨loaded, catalog, -, -, rfl⟩ := Invocation.setup_eq_ok_iff.mp hs
  obtain ⟨hfamily, htype⟩ : schema.family = n ∧ schema.documentType = d := by
    obtain ⟨fields, index, -, rfl⟩ := Registry.composeFamily_eq_ok_iff.mp hschema
    exact ⟨hid, rfl⟩
  have hcheck := Command.check_section id content (hfamily ▸ hf)
  simp only [runProgram, hi, Invocation.run, hs, hcommand, Command.run, Command.runValidate,
    Command.schemaOf, Registry.schemaOf, Catalog.knownFamily, hcontent, hf, hschema, hcheck,
    hfamily, htype, Except.mapError, bind, Except.bind]
  cases f.section? id with
  | none => rfl
  | some t => cases schema.validateSection? id content <;> rfl

/-- A section that its family does not have is unknown. One that it has is said to be omitted
exactly if it or a section above it is a placeholder or omitted, and is otherwise validated. -/
theorem omitted_section_told (hi : Invocation.ofArguments args = .ok i)
    (hcommand : i.command = .validate n d (some id) file) (hs : i.setup files e = .ok s)
    (hverify : Registry.builtin.verify s.catalog = .ok ()) (hf : s.catalog.family? n = some f)
    (hschema : Registry.builtin.composeFamily f d = .ok schema)
    (hcontent : Command.readContent files file = .ok content) :
    (runProgram args files e = ⟨1, "", "Error: Section not found: " ++ id ++ " in family " ++
      toString n.toNat ++ "\n"⟩ ↔ f.section? id = none) ∧
    (runProgram args files e = ⟨1, "", "Error: Section " ++ id ++ " is omitted for " ++ d.name ++
      " documents\n"⟩ ↔ (f.section? id).isSome = true ∧
        ∃ t ∈ f.lineage id, t.isPlaceholder = true ∨ t.applicability.get? d = some .omitted) ∧
    ((f.section? id).isSome = true →
      (∀ t ∈ f.lineage id, t.isPlaceholder = false ∧ t.applicability.get? d ≠ some .omitted) →
      ∃ outcome, schema.validateSection? id content = some outcome ∧
        runProgram args files e = Command.report s n d (some id) outcome ∧
        ((runProgram args files e).code = 0 ↔ outcome.isOk = true)) := by
  obtain ⟨_, catalog, -, hcatalog, rfl⟩ := Invocation.setup_eq_ok_iff.mp hs
  have hsound := Config.sound_of_readCatalog (Config.loadCatalog_eq_ok_iff.mp hcatalog).1
  obtain ⟨hid, hstructure, hmem⟩ := hsound.of_family? hf
  have hcovers := Registry.verify_eq_ok_iff.mp hverify f hmem
  have houtcome : (schema.validateSection? id content).isSome = true ↔
      (f.section? id).isSome = true ∧ f.cutsOff d id = false := by
    rw [FamilySchema.validateSection?, Option.isSome_map]
    exact Registry.section?_isSome_iff hstructure (Registry.unshared_builtin f.id) hcovers hschema
  rw [← RunResult.failure_unknownSection, ← RunResult.failure_omitted, ← Family.cutsOff_iff_lineage,
    runProgram_validate hi hcommand hs hf hid hschema hcontent]
  cases hsection : f.section? id with
  | none =>
    exact ⟨iff_of_true rfl rfl, iff_of_false RunResult.unknown_ne_omitted nofun, nofun⟩
  | some t =>
    rw [hsection] at houtcome
    cases hv : schema.validateSection? id content with
    | none =>
      -- a section that is not in the index is cut off, and the command has nothing else to go by
      have hcut : f.cutsOff d id = true := by simpa [hv] using houtcome
      refine ⟨iff_of_false RunResult.unknown_ne_omitted.symm nofun, iff_of_true rfl ⟨rfl, hcut⟩,
        fun _ hnone => ?_⟩
      obtain ⟨t, ht, hout⟩ := Family.cutsOff_iff_lineage.mp hcut
      obtain ⟨hreal, hkept⟩ := hnone t ht
      rcases hout with hplaceholder | homitted
      · rw [hreal] at hplaceholder
        cases hplaceholder
      · exact absurd homitted hkept
    | some outcome =>
      have hin : f.cutsOff d id = false := by simpa [hv] using houtcome
      refine ⟨iff_of_false (RunResult.report_ne_failure _ _ _ _ _) nofun,
        iff_of_false (RunResult.report_ne_failure _ _ _ _ _) ?_, fun _ _ => ⟨_, rfl, rfl, ?_⟩⟩
      · rw [hin]
        exact nofun
      · cases outcome with
        | ok data => exact iff_of_true rfl rfl
        | error issues => exact iff_of_false (show (1 : UInt32) ≠ 0 by decide) nofun

end

def templateSection : Section := requiredSection "1.2" "\x7b\x7bname\x7d\x7d"

def templateFamily : Family :=
  { id := 1, name := "", anchor := "", applicability := .unset, sections := [templateSection] }

def templateEntries : List (String × FileTree) := [("1-a.json", .file templateFamily.bytes)]

def templateFiles : Files :=
  ⟨.directory [("content.json", .file "[\"a\"]".toUTF8),
    ("families", .directory templateEntries)], []⟩

theorem templateFiles_load : Config.load templateFiles [] none = .ok {} := by
  rfl

theorem templateFiles_content :
    Command.readContent templateFiles "content.json" = .ok (.arr [.str "a"]) := by
  have htext : templateFiles.readText "content.json" = .ok "[\"a\"]" :=
    Files.textOf_toUTF8 "[\"a\"]"
  rw [Command.readContent, htext]
  rfl

def acceptanceCommand : List String :=
  ["validate", "--family", "3", "--doc-type", "task", "--section", "3.4.3", "content.json"]

theorem acceptance_tests_omitted :
    ∃ i s f schema, Invocation.ofArguments acceptanceCommand = .ok i ∧
      i.command = .validate 3 .task (some "3.4.3") "content.json" ∧
      i.setup templateFiles [] = .ok s ∧ Registry.builtin.verify s.catalog = .ok () ∧
      s.catalog.family? 3 = some f ∧ Registry.builtin.composeFamily f .task = .ok schema ∧
      Command.readContent templateFiles "content.json" = .ok (.arr [.str "a"]) ∧
      runProgram acceptanceCommand templateFiles [] =
        ⟨1, "", "Error: Section 3.4.3 is omitted for task documents\n"⟩ := by
  have hi : Invocation.ofArguments acceptanceCommand = .ok ⟨none, none,
      .validate 3 .task (some "3.4.3") "content.json"⟩ := by rfl
  have hverify : Registry.builtin.verify Catalog.builtin = .ok () := by rfl
  have hs : (⟨none, none, .validate 3 .task (some "3.4.3") "content.json"⟩ : Invocation).setup
      templateFiles [] = .ok ⟨templateFiles, {}, Catalog.builtin⟩ := by
    refine Invocation.setup_eq_ok_iff.mpr ⟨{}, _, templateFiles_load, ?_, rfl⟩
    exact Config.loadCatalog_eq_ok_iff.mpr ⟨rfl, fun _ => hverify⟩
  have hf : Catalog.builtin.family? 3 = some BuiltinCatalog.qualityRisk := by rfl
  obtain ⟨schema, hschema⟩ : ∃ schema,
      Registry.builtin.composeFamily BuiltinCatalog.qualityRisk .task = .ok schema := ⟨_, by rfl⟩
  obtain ⟨-, htold, -⟩ := omitted_section_told hi rfl hs hverify hf hschema templateFiles_content
  exact ⟨_, _, _, schema, hi, rfl, hs, hverify, hf, hschema, templateFiles_content,
    htold.mpr ⟨by decide, by decide⟩⟩

def templateCommand : List String :=
  ["--catalog", "families", "validate", "--family", "1", "--doc-type", "plan", "--section", "1.2",
    "content.json"]

def templateCatalog : Catalog := ⟨OrderedMap.empty.insert 1 templateFamily⟩

theorem templateCatalog_read :
    (Config.mk (some "families") true .pretty).readCatalog templateFiles = .ok templateCatalog := by
  have hnames : FileTree.WellNamed templateEntries := ⟨by decide, by decide⟩
  have hread : Catalog.ReadAs "families" (FileTree.familyFiles templateEntries) [templateFamily] :=
    (Catalog.readAs_iff hnames fun _ => id).mpr
      (.cons (Catalog.contains_bytes (by rfl) (by decide +kernel)) .nil)
  exact (Catalog.ofEntries_eq_ok_iff hnames.nodup).mpr ⟨_, hread, by rfl⟩

/-- Though neither it nor a section above it is omitted, the placeholder is said to be. -/
theorem placeholder_told_as_omitted :
    ∃ i s f schema, Invocation.ofArguments templateCommand = .ok i ∧
      i.command = .validate 1 .plan (some "1.2") "content.json" ∧
      i.setup templateFiles [] = .ok s ∧ Registry.builtin.verify s.catalog = .ok () ∧
      s.catalog.family? 1 = some f ∧ Registry.builtin.composeFamily f .plan = .ok schema ∧
      Command.readContent templateFiles "content.json" = .ok (.arr [.str "a"]) ∧
      (f.section? "1.2").isSome = true ∧
      (∀ t ∈ f.lineage "1.2", t.applicability.get? .plan ≠ some .omitted) ∧
      runProgram templateCommand templateFiles [] =
        ⟨1, "", "Error: Section 1.2 is omitted for plan documents\n"⟩ := by
  have hi : Invocation.ofArguments templateCommand = .ok ⟨none, some "families",
      .validate 1 .plan (some "1.2") "content.json"⟩ := by rfl
  have hverify : Registry.builtin.verify templateCatalog = .ok () := by rfl
  have hs : (⟨none, some "families", .validate 1 .plan (some "1.2") "content.json"⟩ :
      Invocation).setup templateFiles [] =
        .ok ⟨templateFiles, ⟨some "families", true, .pretty⟩, templateCatalog⟩ := by
    refine Invocation.setup_eq_ok_iff.mpr ⟨{}, _, templateFiles_load, ?_, rfl⟩
    exact Config.loadCatalog_eq_ok_iff.mpr ⟨templateCatalog_read, fun _ => hverify⟩
  have hf : templateCatalog.family? 1 = some templateFamily := by rfl
  obtain ⟨schema, hschema, hout⟩ : ∃ schema,
      Registry.builtin.composeFamily templateFamily .plan = .ok schema ∧
        schema.validateSection? "1.2" (.arr [.str "a"]) = none := ⟨_, by rfl, by rfl⟩
  have hsection : templateFamily.section? "1.2" = some templateSection := by rfl
  refine ⟨_, _, _, schema, hi, rfl, hs, hverify, hf, hschema, templateFiles_content,
    by rw [hsection]; rfl, by decide, ?_⟩
  rw [runProgram_validate hi rfl hs hf rfl hschema templateFiles_content, hsection, hout]
  exact RunResult.failure_omitted

end DocSections
