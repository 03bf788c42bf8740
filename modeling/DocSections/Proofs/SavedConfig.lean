import DocSections.Config.Load
import DocSections.Proofs.FileNames
import DocSections.Proofs.FileWriting
import DocSections.Proofs.Lookup
import DocSections.Proofs.TomlText

/-! Configurations that were saved. The text of a configuration spells its settings, the name of a
file tells that it is a TOML file, and the settings of the file that is given by name are laid over
all others. So what was saved is loaded again, but for a path that was not set: that is taken from
the other files, where a number counts as a text and only a list or a table is refused. -/

namespace DocSections

theorem Assoc.ofPairs_pair {k l : String} {α : Type} (h : compare k l = .lt) (a b : α) :
    ofPairs [(k, a), (l, b)] = [(k, a), (l, b)] :=
  ofPairs_of_ascending (List.pairwise_pair.mpr h)

namespace Toml

theorem foldlM_step?_append {first : List Token} {r r' : Reading}
    (h : first.foldlM Reading.step? r = some r') (second : List Token) :
    (first ++ second).foldlM Reading.step? r = second.foldlM Reading.step? r' := by
  rw [List.foldlM_append, h]
  rfl

theorem ofText?_of_tokens {text : String} {tokens : List Token}
    (h : tokens? (withoutMark text.toList) = some tokens) :
    ofText? text = (tokens.foldlM Reading.step? Reading.start).bind Reading.finish? := by
  rw [ofText?, h]
  rfl

end Toml

namespace Config

open Toml

/-- The tokens of a key and what stands between it and its value. -/
def keyTokens (key : String) : List Token := [.bare key.toList, .blank, .mark '=', .blank]

def headerTokens (name : String) : List Token :=
  [.mark '[', .bare name.toList, .mark ']', .newline]

def pathTokens (c : Config) (multiline : Bool) : List Token :=
  c.catalogPath.elim [] fun p => keyTokens "path" ++ [.quoted p multiline, .newline]

def middleTokens (c : Config) : List Token :=
  keyTokens "verify" ++ [.bare (if c.verify then "true" else "false").toList, .newline, .newline] ++
    headerTokens "report" ++ keyTokens "output_format"

def savedTokens (c : Config) (pathForm wordForm : Bool) : List Token :=
  headerTokens "catalog" ++ (c.pathTokens pathForm ++ (c.middleTokens ++
    [.quoted (Vocabulary.word c.outputFormat) wordForm, .newline]))

theorem exists_lexesAs_quoted (text : String) : ∃ multiline,
    LexesAs ((quoted text).toList ++ "\n".toList) [.quoted text multiline, .newline] := by
  obtain ⟨multiline, hquoted⟩ := exists_lexesAs_quotedChars text.toList
  rw [String.ofList_toList] at hquoted
  rw [quoted, String.toList_ofList]
  exact ⟨multiline, hquoted⟩

theorem exists_lexesAs_text (c : Config) : ∃ pathForm wordForm,
    LexesAs c.text.toList (c.savedTokens pathForm wordForm) := by
  have hcatalog : LexesAs "[catalog]\n".toList (headerTokens "catalog") := fun _ => by rfl
  obtain ⟨pathForm, hpath⟩ : ∃ pathForm, LexesAs c.pathLine.toList (c.pathTokens pathForm) := by
    unfold pathLine pathTokens
    cases c.catalogPath with
    | none => exact ⟨false, fun _ => rfl⟩
    | some p =>
      obtain ⟨multiline, hquoted⟩ := exists_lexesAs_quoted p
      have hkey : LexesAs "path = ".toList (keyTokens "path") := fun _ => by rfl
      refine ⟨multiline, ?_⟩
      rw [String.toList_append, String.toList_append, List.append_assoc]
      exact hkey.append hquoted
  have hmiddle : LexesAs ("verify = ".toList ++ ((if c.verify then "true" else "false").toList ++
      "\n\n[report]\noutput_format = ".toList)) c.middleTokens := by
    unfold middleTokens
    cases c.verify <;> exact fun _ => by rfl
  obtain ⟨wordForm, hword⟩ := exists_lexesAs_quoted (Vocabulary.word c.outputFormat)
  refine ⟨pathForm, wordForm, ?_⟩
  have htext : c.text.toList = "[catalog]\n".toList ++ (c.pathLine.toList ++
      (("verify = ".toList ++ ((if c.verify then "true" else "false").toList ++
        "\n\n[report]\noutput_format = ".toList)) ++
          ((quoted (Vocabulary.word c.outputFormat)).toList ++ "\n".toList))) := by
    simp only [text, String.toList_append, List.append_assoc]
  rw [htext]
  exact hcatalog.append (hpath.append (hmiddle.append hword))

def pathEntries (c : Config) : Entries :=
  (c.catalogPath.map fun p => ("path", Node.value (.text p))).toList

def savedEntries (c : Config) : Entries :=
  [("catalog", .table .declared (c.pathEntries ++ [("verify", .value (.bool c.verify))])),
    ("report", .table .declared
      [("output_format", .value (.text (Vocabulary.word c.outputFormat)))])]

theorem foldlM_savedTokens (c : Config) (pathForm wordForm : Bool) :
    (c.savedTokens pathForm wordForm).foldlM Reading.step? Reading.start =
      some ⟨⟨c.savedEntries, ["report"]⟩, .lineStart⟩ := by
  have hcatalog : (headerTokens "catalog").foldlM Reading.step? Reading.start =
      some ⟨⟨[("catalog", .table .declared [])], ["catalog"]⟩, .lineStart⟩ := by rfl
  have hpath : (c.pathTokens pathForm).foldlM Reading.step?
      ⟨⟨[("catalog", .table .declared [])], ["catalog"]⟩, .lineStart⟩ =
        some ⟨⟨[("catalog", .table .declared c.pathEntries)], ["catalog"]⟩, .lineStart⟩ := by
    unfold pathTokens pathEntries
    cases c.catalogPath <;> rfl
  have hmiddle : c.middleTokens.foldlM Reading.step?
      ⟨⟨[("catalog", .table .declared c.pathEntries)], ["catalog"]⟩, .lineStart⟩ =
        some ⟨⟨[("catalog", .table .declared
            (c.pathEntries ++ [("verify", .value (.bool c.verify))])),
          ("report", .table .declared [])], ["report"]⟩, .value ["output_format"] [] false⟩ := by
    unfold middleTokens pathEntries
    cases c.catalogPath <;> cases c.verify <;> rfl
  rw [savedTokens, foldlM_step?_append hcatalog, foldlM_step?_append hpath,
    foldlM_step?_append hmiddle]
  rfl

theorem setting?_savedEntries (c : Config) :
    c.savedEntries.setting? = some (.table c.settings) := by
  have hsingle (key : String) (s : Setting) : Assoc.ofPairs [(key, s)] = [(key, s)] := rfl
  have hkeys : compare "path" "verify" = .lt := by decide
  have htables : compare "catalog" "report" = .lt := by decide
  obtain ⟨path, verify, format⟩ := c
  cases path <;>
    simp [savedEntries, pathEntries, settings, catalogSettings, reportSettings, Entries.setting?,
      settings?, Node.setting?, tableSetting?, dateKey, hsingle, Assoc.ofPairs_pair, hkeys, htables]

/-- The text of a configuration spells its settings. -/
theorem ofText?_text (c : Config) : Toml.ofText? c.text = some (.table c.settings) := by
  obtain ⟨pathForm, wordForm, hlexes⟩ := c.exists_lexesAs_text
  have hmark : withoutMark c.text.toList = c.text.toList := by
    simp [text, withoutMark]
  rw [ofText?_of_tokens (hmark ▸ hlexes.tokens?_eq), foldlM_savedTokens]
  exact c.setting?_savedEntries

end Config

namespace PathText

/-- The last piece of a path ends in what stands behind the last slash. -/
theorem exists_getLast?_split {ending : List Char} (h : '/' ∉ ending) (front : List Char) :
    ∃ start, (Text.split '/' (front ++ ending)).getLast? = some (start ++ ending) := by
  induction front with
  | nil => exact ⟨[], by rw [List.nil_append, Text.split_of_not_mem h]; rfl⟩
  | cons c rest ih =>
    obtain ⟨start, hlast⟩ := ih
    rw [List.cons_append, Text.split]
    split_ifs
    · refine ⟨start, ?_⟩
      rw [List.getLast?_cons, hlast]
      rfl
    · cases hsplit : Text.split '/' (rest ++ ending) with
      | nil => exact absurd hsplit (Text.split_ne_nil _)
      | cons piece pieces =>
        rw [hsplit] at hlast
        cases pieces with
        | nil => exact ⟨c :: start, by simpa [Text.consFirst] using hlast⟩
        | cons next more =>
          refine ⟨start, ?_⟩
          rw [Text.consFirst, List.getLast?_cons_cons]
          rwa [List.getLast?_cons_cons] at hlast

theorem extension?_of_append {name : String} {front last : List Char} (hfront : front ≠ [])
    (hlast : '.' ∉ last) (hname : name.toList = front ++ '.' :: last) :
    extension? name = some (String.ofList last) := by
  have hpieces : Text.split '.' front ≠ [[]] := by
    intro h
    rw [Text.split_eq_cons_iff] at h
    exact hfront h.1
  rw [extension?, hname, Text.split_append_cons, Text.split_of_not_mem hlast, List.reverse_append]
  cases hreverse : (Text.split '.' front).reverse with
  | nil => exact absurd (List.reverse_eq_nil_iff.mp hreverse) (Text.split_ne_nil front)
  | cons before more =>
    have hkept : ¬ (before = [] ∧ more = []) := by
      rintro ⟨rfl, rfl⟩
      exact hpieces (List.reverse_eq_iff.mp hreverse)
    simp [hkept]

/-- Where a path ends in a name, with a character before the name's ending, that ends the last
name. -/
theorem exists_fileName?_of_ending {path : String} {front ending : List Char}
    (hpath : path.toList = front ++ ending) (hslash : '/' ∉ ending) (hlong : 2 < ending.length) :
    ∃ start, fileName? path = some (String.ofList (start ++ ending)) := by
  obtain ⟨start, hlast⟩ := exists_getLast?_split hslash front
  obtain ⟨pieces, hpieces⟩ := List.getLast?_eq_some_iff.mp hlast
  have hne : ∀ word : String, word.toList.length ≤ 2 → String.ofList (start ++ ending) ≠ word := by
    rintro word hword rfl
    rw [String.toList_ofList, List.length_append] at hword
    omega
  refine ⟨start, ?_⟩
  rw [fileName?, names, hpath, hpieces, List.map_append, List.map_singleton, List.filter_append]
  generalize String.ofList (start ++ ending) = name at hne
  simp [hne "" (by decide), hne "." (by decide), hne ".." (by decide)]

end PathText

namespace SettingSource

/-- A path is that of a TOML file if its last name ends so, and has more than the extension. -/
theorem format?_of_ending {path : String} {front : List Char} {before : Char}
    (hpath : path.toList = front ++ before :: ".toml".toList) (hbefore : before ≠ '/') :
    format? path = some .toml := by
  have hslash : '/' ∉ before :: ".toml".toList := by
    rw [List.mem_cons, not_or]
    exact ⟨hbefore.symm, by decide⟩
  obtain ⟨start, hname⟩ := PathText.exists_fileName?_of_ending hpath hslash (by simp)
  have hextension : PathText.extension? (String.ofList (start ++ before :: ".toml".toList)) =
      some (String.ofList "toml".toList) := by
    have hlast : (String.ofList (start ++ before :: ".toml".toList)).toList =
        (start ++ [before]) ++ '.' :: "toml".toList := by
      rw [String.toList_ofList, List.append_assoc]
      rfl
    exact PathText.extension?_of_append (by simp) (by decide) hlast
  rw [format?, hname, Option.bind_some, hextension]
  rfl

end SettingSource

namespace Setting

variable {s below : Setting} {key name wanted : String} {entries : List (String × Setting)}
  {origin : Option String}

theorem fst_asTable (s : Setting) : s.asTable.1 = s.entries := by
  cases s <;> rfl

theorem overlayEntries_singleton (key : String) (s below : Setting) :
    overlayEntries [(key, s)] below = table (Assoc.insert (keyOf key)
      (s.overlay (Assoc.find? (keyOf key) below.entries)) below.entries) below.asTable.2 := by
  rw [← fst_asTable]
  rfl

theorem overlayEntries_cons (key : String) (s below : Setting) (rest : List (String × Setting)) :
    overlayEntries ((key, s) :: rest) below =
      overlayEntries rest (overlayEntries [(key, s)] below) :=
  rfl

/-- An entry that is laid over others is there, and leaves the others alone. -/
theorem find?_overlayEntries_singleton (hkey : keyOf key = key) (name : String) :
    Assoc.find? name (overlayEntries [(key, s)] below).entries =
      if name = key then some (s.overlay (Assoc.find? key below.entries))
      else Assoc.find? name below.entries := by
  rw [overlayEntries_singleton, hkey, entries, Assoc.find?_insert]

theorem group_of_find? (h : Assoc.find? name s.entries = some (table entries origin)) :
    s.group name wanted = .ok (table entries origin) := by
  rw [group, h]

section

/-- What an entry counts as where a text may be given. -/
inductive CountsAs : Option Setting → Option String → Prop where
  | missing : CountsAs none none
  | unset {o : Option String} : CountsAs (some (.scalar .unset o)) none
  | bool {b : Bool} {o : Option String} :
    CountsAs (some (.scalar (.bool b) o)) (some (if b then "true" else "false"))
  | int {n : Int} {o : Option String} : CountsAs (some (.scalar (.int n) o)) (some (toString n))
  | float {x : Floating} {o : Option String} : CountsAs (some (.scalar (.float x) o)) (some x.text)
  | text {word : String} {o : Option String} : CountsAs (some (.scalar (.text word) o)) (some word)

/-- What is said of an entry that stands where a text may be given and counts as none. -/
inductive RefusedAs (key : String) : Option Setting → SettingFault → Prop where
  | list {items : List Setting} {o : Option String} :
    RefusedAs key (some (.list items o)) (.mismatch "sequence" "a string" key o)
  | table {entries : List (String × Setting)} {o : Option String} :
    RefusedAs key (some (.table entries o)) (.mismatch "map" "a string" key o)

variable {given : Option Setting}

theorem optionalText_eq_ok_iff {word : Option String} :
    optionalText (given.map (·, key)) = .ok word ↔ CountsAs given word := by
  constructor
  · intro h
    match given, h with
    | none, rfl => exact .missing
    | some (.scalar .unset _), rfl => exact .unset
    | some (.scalar (.bool _) _), rfl => exact .bool
    | some (.scalar (.int _) _), rfl => exact .int
    | some (.scalar (.float _) _), rfl => exact .float
    | some (.scalar (.text _) _), rfl => exact .text
  · rintro (_ | _) <;> rfl

theorem optionalText_eq_error_iff {fault : SettingFault} :
    optionalText (given.map (·, key)) = .error fault ↔ RefusedAs key given fault := by
  constructor
  · intro h
    match given, h with
    | some (.list _ _), rfl => exact .list
    | some (.table _ _), rfl => exact .table
  · rintro (_ | _) <;> rfl

end

end Setting

namespace Config

open Setting

def givenPath? (s : Setting) : Option Setting :=
  Assoc.find? "path" ((Assoc.find? "catalog" s.entries).getD (.table [])).entries

def pathIn (s : Setting) : Except SettingFault (Option String) :=
  optionalText ((givenPath? s).map (·, "catalog.path"))

theorem pathIn_eq_ok_iff {s : Setting} {path : Option String} :
    pathIn s = .ok path ↔ CountsAs (givenPath? s) path :=
  optionalText_eq_ok_iff

/-- Lists and tables are refused as a path, and nothing else is. -/
theorem pathIn_eq_error_iff {s : Setting} {fault : SettingFault} :
    pathIn s = .error fault ↔ RefusedAs "catalog.path" (givenPath? s) fault :=
  optionalText_eq_error_iff

variable {c : Config} {below : Setting} {origin : String}

theorem keyOf_name : ∀ name ∈ ["catalog", "path", "verify", "report", "output_format"],
    keyOf name = name ∧ SettingPath.ofKey name = [.entry name] := by
  simp only [List.forall_mem_cons, List.not_mem_nil, false_implies, implies_true, and_true]
  exact ⟨⟨rfl, rfl⟩, ⟨rfl, rfl⟩, ⟨rfl, rfl⟩, ⟨rfl, rfl⟩, rfl, rfl⟩

/-- The settings of a configuration are laid over others group by group. -/
theorem withLayer_settings (c : Config) (origin : String) (below : Setting) :
    below.withLayer (entriesWithOrigin origin c.settings) =
      overlayEntries [("report", .table (entriesWithOrigin origin c.reportSettings) (some origin))]
        (overlayEntries [("catalog",
          .table (entriesWithOrigin origin c.catalogSettings) (some origin))] below) := by
  have hcatalog := (keyOf_name "catalog" (by decide)).2
  have hreport := (keyOf_name "report" (by decide)).2
  simp only [withLayer, settings, entriesWithOrigin, withOrigin, List.foldl_cons, List.foldl_nil,
    hcatalog, hreport, putAt]

/-- The catalog group of a configuration, laid over another one. The path stays as it was if the
configuration has none. -/
theorem exists_catalogGroup (c : Config) (origin : String) (group : Setting) :
    ∃ entries above, overlayEntries (entriesWithOrigin origin c.catalogSettings) group =
        .table entries above ∧
      Assoc.find? "path" entries = (c.catalogPath.map fun p => .scalar (.text p) (some origin)).or
        (Assoc.find? "path" group.entries) ∧
      Assoc.find? "verify" entries = some (.scalar (.bool c.verify) (some origin)) := by
  have hpath := (keyOf_name "path" (by decide)).1
  have hverify := (keyOf_name "verify" (by decide)).1
  unfold catalogSettings
  cases c.catalogPath with
  | none =>
    refine ⟨_, _, overlayEntries_singleton _ _ _, ?_, ?_⟩
    · rw [hverify, Assoc.find?_insert, if_neg (by decide)]
      rfl
    · rw [hverify, Assoc.find?_insert, if_pos rfl]
      rfl
  | some p =>
    refine ⟨_, _, (overlayEntries_cons _ _ _ _).trans (overlayEntries_singleton _ _ _), ?_, ?_⟩
    · rw [hverify, Assoc.find?_insert, if_neg (by decide), find?_overlayEntries_singleton hpath,
        if_pos rfl]
      rfl
    · rw [hverify, Assoc.find?_insert, if_pos rfl]
      rfl

theorem exists_reportGroup (c : Config) (origin : String) (group : Setting) :
    ∃ entries above, overlayEntries (entriesWithOrigin origin c.reportSettings) group =
        .table entries above ∧
      Assoc.find? "output_format" entries =
        some (.scalar (.text (Vocabulary.word c.outputFormat)) (some origin)) := by
  have hformat := (keyOf_name "output_format" (by decide)).1
  refine ⟨_, _, overlayEntries_singleton _ _ _, ?_⟩
  rw [hformat, Assoc.find?_insert, if_pos rfl]
  rfl

theorem formatOf_word (f : OutputFormat) : formatOf (Vocabulary.word f) = .ok f := by
  have hlower : (Vocabulary.word f).toLower = Vocabulary.word f := by
    have hchars : (Vocabulary.word f).toLower.toList =
        (Vocabulary.word f).toList.map Char.toLower := String.toList_map
    rw [← String.toList_inj, hchars]
    cases f <;> rfl
  rw [formatOf, hlower, Vocabulary.ofWord?_word]

/-- The settings of a configuration, laid over others, make that configuration again, except for a
path that it leaves open. -/
theorem ofSetting_withLayer (c : Config) (origin : String) (below : Setting) :
    ofSetting (below.withLayer (entriesWithOrigin origin c.settings)) =
      (c.catalogPath.elim (pathIn below) fun p => .ok (some p)).map
        fun path => { c with catalogPath := path } := by
  have hcatalogKey := (keyOf_name "catalog" (by decide)).1
  have hreportKey := (keyOf_name "report" (by decide)).1
  rw [withLayer_settings]
  set lower := overlayEntries [("catalog",
    .table (entriesWithOrigin origin c.catalogSettings) (some origin))] below with hlower
  set all := overlayEntries
    [("report", .table (entriesWithOrigin origin c.reportSettings) (some origin))] lower with hall
  obtain ⟨entries, above, hgroup, hpath, hverify⟩ :=
    c.exists_catalogGroup origin ((Assoc.find? "catalog" below.entries).getD (.table []))
  obtain ⟨words, outer, hreports, hformat⟩ :=
    c.exists_reportGroup origin ((Assoc.find? "report" lower.entries).getD (.table []))
  have hcatalog : Assoc.find? "catalog" all.entries = some (.table entries above) := by
    rw [hall, find?_overlayEntries_singleton hreportKey, if_neg (by decide), hlower,
      find?_overlayEntries_singleton hcatalogKey, if_pos rfl, ← hgroup]
    rfl
  have hreport : Assoc.find? "report" all.entries = some (.table words outer) := by
    rw [hall, find?_overlayEntries_singleton hreportKey, if_pos rfl, ← hreports]
    rfl
  have hverified (key : String) : Setting.boolean true
      (some (.scalar (.bool c.verify) (some origin), key)) = .ok c.verify := rfl
  have hformatted (key : String) : Setting.outputFormat .pretty
      (some (.scalar (.text (Vocabulary.word c.outputFormat)) (some origin), key)) =
        .ok c.outputFormat := formatOf_word c.outputFormat
  rw [ofSetting, group_of_find? hcatalog, group_of_find? hreport]
  simp only [bind, Except.bind, member?, hpath, hverify, hformat, Option.map_some, hverified,
    hformatted]
  cases hc : c.catalogPath with
  | none =>
    rw [Option.map_none, Option.none_or, Option.elim_none, pathIn, givenPath?]
    have hkey : "catalog" ++ "." ++ "path" = "catalog.path" := by decide
    rw [hkey]
    cases optionalText _ <;> rfl
  | some p => rfl

end Config

namespace SettingSource

variable {files : Files} {p : String} {c : Config} {front : List Char} {before : Char}

theorem ofText_text (origin : String) (c : Config) :
    ofText origin c.text .toml = .ok ⟨origin, c.settings⟩ := by
  rw [ofText, parse, c.ofText?_text]
  rfl

theorem required_of_readText (hp : p.toList = front ++ before :: ".toml".toList)
    (hbefore : before ≠ '/') (htext : files.readText p = .ok c.text) :
    required files p = .ok ⟨files.relative p, c.settings⟩ := by
  have hfile : files.isFile p = true := by
    unfold Files.readText at htext
    unfold Files.isFile
    cases hread : files.read p with
    | ok bytes => rfl
    | error fault =>
      rw [hread] at htext
      cases htext
  have hfind : find files p = .ok (p, .toml) := by
    rw [find, if_pos hfile, format?_of_ending hp hbefore]
  rw [required, hfind]
  simp only [bind, Except.bind, htext, Except.mapError]
  exact ofText_text _ c

end SettingSource

namespace Config

theorem sources_of_usual {files : Files} {e : Environment} (name : String)
    {usual : List (List SettingSource)}
    (husual : (usualFiles files e).mapM (SettingSource.optional files) = .ok usual) :
    sources files e (some name) = (SettingSource.required files name).map fun named =>
      usual.flatten ++ [named] ++ [⟨"the environment", e.settings⟩] := by
  rw [sources, husual]
  change Except.bind ([name].mapM (SettingSource.required files)) _ = _
  rw [List.mapM_cons]
  cases SettingSource.required files name <;> rfl

/-- With no variables, the last source that counts is the file given by name. -/
theorem load_of_required {files : Files} {e : Environment} {name : String}
    {usual : List (List SettingSource)} {named : SettingSource}
    (hnamed : SettingSource.required files name = .ok named) (henvironment : e.settings = [])
    (husual : (usualFiles files e).mapM (SettingSource.optional files) = .ok usual) :
    load files e (some name) =
      (ofSetting ((layered usual.flatten).withLayer named.placed)).mapError .setting := by
  rw [load, sources_of_usual name husual, hnamed, henvironment]
  simp only [Except.map, layered, List.foldl_append, List.foldl_cons, List.foldl_nil]
  rfl

theorem load_of_readText {files : Files} {e : Environment} {p : String} {c : Config}
    {front : List Char} {before : Char} {usual : List (List SettingSource)}
    (hp : p.toList = front ++ before :: ".toml".toList) (hbefore : before ≠ '/')
    (htext : files.readText p = .ok c.text) (henvironment : e.settings = [])
    (husual : (usualFiles files e).mapM (SettingSource.optional files) = .ok usual) :
    load files e (some p) = ((c.catalogPath.elim (pathIn (layered usual.flatten)) fun p =>
      .ok (some p)).map fun path => { c with catalogPath := path }).mapError .setting := by
  have hnamed := SettingSource.required_of_readText hp hbefore htext
  have hplaced : SettingSource.placed ⟨files.relative p, c.settings⟩ =
      Setting.entriesWithOrigin (files.relative p) c.settings := rfl
  rw [load_of_required hnamed henvironment husual, hplaced, ofSetting_withLayer]

/-- A configuration that was saved is the one that is loaded, over whatever other configuration
files there are. Only a path that was not set is still taken from these, and loading fails exactly
where they give a list or a table for it. -/
theorem load_saved {unsaved files : Files} {e : Environment} {p : String} {c : Config}
    {front : List Char} {before : Char} {usual : List (List SettingSource)}
    (hp : p.toList = front ++ before :: ".toml".toList) (hbefore : before ≠ '/')
    (hsaved : c.save unsaved p = .ok files) (henvironment : e.settings = [])
    (husual : (usualFiles files e).mapM (SettingSource.optional files) = .ok usual) :
    (c.catalogPath.isSome = true → load files e (some p) = .ok c) ∧
    (c.catalogPath = none →
      (∀ loaded, load files e (some p) = .ok loaded ↔ ∃ path,
        Setting.CountsAs (givenPath? (layered usual.flatten)) path ∧
          loaded = { c with catalogPath := path }) ∧
      ∀ fault, load files e (some p) = .error fault ↔ ∃ problem,
        Setting.RefusedAs "catalog.path" (givenPath? (layered usual.flatten)) problem ∧
          fault = .setting problem) := by
  rw [load_of_readText hp hbefore (Files.readText_write hsaved) henvironment husual]
  obtain ⟨path, verify, format⟩ := c
  cases path with
  | some path => exact ⟨fun _ => rfl, nofun⟩
  | none =>
    refine ⟨nofun, fun _ => ?_⟩
    simp only [← pathIn_eq_ok_iff, ← pathIn_eq_error_iff, Option.elim_none]
    cases pathIn (layered usual.flatten) <;> simp [Except.map, Except.mapError, eq_comm]

/-- A directory with a usual configuration file and two files to which a configuration was saved.
Saving it again changes nothing. -/
def savedBeside (usual : String) (c : Config) : Files :=
  ⟨.directory [(".toml", .file c.text.toUTF8), ("doc-schemas.toml", .file usual.toUTF8),
    ("saved.toml", .file c.text.toUTF8)], []⟩

theorem save_savedBeside (usual : String) (c : Config) :
    c.save (savedBeside usual c) "saved.toml" = .ok (savedBeside usual c) ∧
      c.save (savedBeside usual c) ".toml" = .ok (savedBeside usual c) := by
  exact ⟨rfl, rfl⟩

theorem usualFiles_savedBeside {usual : String} {source : SettingSource} (c : Config)
    (h : SettingSource.ofText "doc-schemas.toml" usual .toml = .ok source) :
    (usualFiles (savedBeside usual c) []).mapM (SettingSource.optional (savedBeside usual c)) =
      .ok [[source], [], []] := by
  have hread : (savedBeside usual c).readText "doc-schemas.toml" = .ok usual :=
    Files.textOf_toUTF8 usual
  have hfind : SettingSource.find (savedBeside usual c) "doc-schemas.toml" =
      .ok ("doc-schemas.toml", .toml) := by rfl
  have hrelative : (savedBeside usual c).relative "doc-schemas.toml" = "doc-schemas.toml" := by rfl
  have hfound : SettingSource.optional (savedBeside usual c) "doc-schemas.toml" = .ok [source] := by
    rw [SettingSource.optional, hfind]
    simp only [hread, hrelative, h]
    rfl
  have hhidden : SettingSource.optional (savedBeside usual c) ".doc-schemas.toml" = .ok [] := by
    rfl
  have hinner : SettingSource.optional (savedBeside usual c) "config/doc-schemas.toml" =
      .ok [] := by
    rfl
  have hlocal : usualFiles (savedBeside usual c) [] = localFiles := by rfl
  rw [hlocal, localFiles]
  simp only [List.mapM_cons, List.mapM_nil, hfound, hhidden, hinner]
  rfl

def pathSource (origin : String) (path : Setting) : SettingSource :=
  ⟨origin, [("catalog", .table [("path", path)])]⟩

theorem givenPath?_pathSource (origin : String) (path : Setting) :
    givenPath? (layered [pathSource origin path]) =
      some ((path.withOrigin origin).overlay none) := by
  have hcatalog := keyOf_name "catalog" (by decide)
  have hpath := (keyOf_name "path" (by decide)).1
  simp only [layered, List.foldl_cons, List.foldl_nil, SettingSource.placed, pathSource,
    Setting.entriesWithOrigin, Setting.withOrigin, Setting.withLayer, hcatalog.2, Setting.putAt]
  rw [givenPath?, Setting.find?_overlayEntries_singleton hcatalog.1, if_pos rfl, Option.getD_some]
  change Assoc.find? "path" (Setting.overlayEntries _ (.table [])).entries = _
  rw [Setting.find?_overlayEntries_singleton hpath, if_pos rfl]
  rfl

theorem ofText_numberedPath :
    SettingSource.ofText "doc-schemas.toml" "[catalog]\npath = 5\n" .toml =
      .ok (pathSource "doc-schemas.toml" (.int 5)) := by
  have htokens : Toml.tokens? (Toml.withoutMark "[catalog]\npath = 5\n".toList) =
      some (headerTokens "catalog" ++ keyTokens "path" ++ [.bare ['5'], .newline]) := by rfl
  rw [SettingSource.ofText, SettingSource.parse, Toml.ofText?_of_tokens htokens]
  rfl

theorem ofText_listedPath :
    SettingSource.ofText "doc-schemas.toml" "[catalog]\npath = []\n" .toml =
      .ok (pathSource "doc-schemas.toml" (.list [])) := by
  have htokens : Toml.tokens? (Toml.withoutMark "[catalog]\npath = []\n".toList) =
      some (headerTokens "catalog" ++ keyTokens "path" ++
        [.mark '[', .mark ']', .newline]) := by rfl
  rw [SettingSource.ofText, SettingSource.parse, Toml.ofText?_of_tokens htokens]
  rfl

/-- A path that was set is loaded again. Where none was set, a number in the other file is read as
the path, and a list there is refused. -/
theorem load_saved_beside_another :
    "saved.toml".toList = "save".toList ++ 'd' :: ".toml".toList ∧ 'd' ≠ '/' ∧
    Environment.settings [] = [] ∧
    (∃ (c : Config) (files : Files) (usual : List (List SettingSource)),
      c.save files "saved.toml" = .ok files ∧
      (usualFiles files []).mapM (SettingSource.optional files) = .ok usual ∧
      c.catalogPath = some "/srv/catalog" ∧ load files [] (some "saved.toml") = .ok c) ∧
    (∃ (files : Files) (usual : List (List SettingSource)),
      Config.save {} files "saved.toml" = .ok files ∧
      (usualFiles files []).mapM (SettingSource.optional files) = .ok usual ∧
      files.readText "doc-schemas.toml" = .ok "[catalog]\npath = 5\n" ∧
      load files [] (some "saved.toml") = .ok { catalogPath := some "5" }) ∧
    ∃ (files : Files) (usual : List (List SettingSource)),
      Config.save {} files "saved.toml" = .ok files ∧
      (usualFiles files []).mapM (SettingSource.optional files) = .ok usual ∧
      files.readText "doc-schemas.toml" = .ok "[catalog]\npath = []\n" ∧
      load files [] (some "saved.toml") =
        .error (.setting (.mismatch "sequence" "a string" "catalog.path" "doc-schemas.toml")) := by
  have hending : "saved.toml".toList = "save".toList ++ 'd' :: ".toml".toList := by decide
  refine ⟨hending, by decide, rfl, ?_, ?_, ?_⟩
  · have hsaved := (save_savedBeside (Config.text { catalogPath := some "/srv" })
      ⟨some "/srv/catalog", false, .compact⟩).1
    have husual := usualFiles_savedBeside ⟨some "/srv/catalog", false, .compact⟩
      (SettingSource.ofText_text "doc-schemas.toml" { catalogPath := some "/srv" })
    exact ⟨_, _, _, hsaved, husual, rfl,
      (load_saved hending (by decide) hsaved rfl husual).1 rfl⟩
  · have hsaved := (save_savedBeside "[catalog]\npath = 5\n" {}).1
    have husual := usualFiles_savedBeside {} ofText_numberedPath
    have hgiven : givenPath? (layered [[pathSource "doc-schemas.toml" (.int 5)], [], []].flatten) =
        some (.scalar (.int 5) "doc-schemas.toml") := givenPath?_pathSource _ _
    obtain ⟨hloaded, -⟩ := (load_saved hending (by decide) hsaved rfl husual).2 rfl
    rw [hgiven] at hloaded
    exact ⟨_, _, hsaved, husual, Files.textOf_toUTF8 "[catalog]\npath = 5\n",
      (hloaded _).mpr ⟨_, .int, rfl⟩⟩
  · have hsaved := (save_savedBeside "[catalog]\npath = []\n" {}).1
    have husual := usualFiles_savedBeside {} ofText_listedPath
    have hgiven :
        givenPath? (layered [[pathSource "doc-schemas.toml" (.list [])], [], []].flatten) =
          some (.list [] "doc-schemas.toml") := givenPath?_pathSource _ _
    obtain ⟨-, hrefused⟩ := (load_saved hending (by decide) hsaved rfl husual).2 rfl
    rw [hgiven] at hrefused
    exact ⟨_, _, hsaved, husual, Files.textOf_toUTF8 "[catalog]\npath = []\n",
      (hrefused _).mpr ⟨_, .list, rfl⟩⟩

/-- A path that was not set comes from the other file. And a file of which the name is the ending
alone is written, but not known as a configuration file. -/
theorem saved_is_not_loaded :
    ∃ (other : Config) (files : Files) (usual : List (List SettingSource)),
      other.catalogPath = some "/srv" ∧
      (usualFiles files []).mapM (SettingSource.optional files) = .ok usual ∧
      Config.save {} files "saved.toml" = .ok files ∧
      load files [] (some "saved.toml") = .ok { catalogPath := some "/srv" } ∧
      Config.save {} files ".toml" = .ok files ∧
      load files [] (some ".toml") = .error (.source (.unknownFormat "/.toml")) := by
  have hending : "saved.toml".toList = "save".toList ++ 'd' :: ".toml".toList := by decide
  have husual := usualFiles_savedBeside {}
    (SettingSource.ofText_text "doc-schemas.toml" { catalogPath := some "/srv" })
  obtain ⟨hsaved, hhidden⟩ := save_savedBeside (Config.text { catalogPath := some "/srv" }) {}
  refine ⟨{ catalogPath := some "/srv" }, _, _, rfl, husual, hsaved, ?_, hhidden, ?_⟩
  · rw [load_of_readText hending (by decide) (Files.readText_write hsaved) rfl husual]
    rfl
  · have hunknown :
        SettingSource.required (savedBeside (Config.text { catalogPath := some "/srv" }) {})
          ".toml" = .error (.unknownFormat "/.toml") := by
      rfl
    rw [load, sources_of_usual ".toml" husual, hunknown]
    rfl

end Config

end DocSections
