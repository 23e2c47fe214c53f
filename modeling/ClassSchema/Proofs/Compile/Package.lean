import ClassSchema.Compile.Package
import ClassSchema.Proofs.Compile.Acceptance
import ClassSchema.Proofs.Text.Bytes

/-
# Packages and their subsystems

A package is compiled while it is read: the classes of one file get their relations before the next
file is opened.  When all files can be read this makes no difference, and the package is compiled
as its subsystems are (`compile_of_lists`).  When one cannot be read, what has been done by then
are the relations of the files before it and nothing else, unless a class of theirs has failed
before.

Which files these are is said of the directory alone (`Lists`).  It has them in any order, and
beside them other files, directories, and names that are no texts; the files that count are taken
in the order of the bytes of their names.
-/

namespace ClassSchema

open Model Schema Outcome

/-! ### The files of a package -/

namespace Package

/-- The name of a file that holds a subsystem: it has the extension and is not hidden. -/
structure Named (extension name : String) : Prop where
  not_hidden : ¬ ∃ rest, name = "." ++ rest
  has_ending : ∃ stem, name = stem ++ "." ++ extension

/-- The files with subsystems that a directory has, each once, in ascending order of the bytes of
their names. -/
structure Lists (extension : String) (entries : List DirectoryEntry) (fs : List SourceFile) :
    Prop where
  mem_iff : ∀ f, f ∈ fs ↔ Named extension f.name ∧
    ∃ e ∈ entries, e.name = f.name.toUTF8 ∧ e.content = some f.content
  ascending : fs.Pairwise fun f g => f.name.toUTF8.data.toList < g.name.toUTF8.data.toList

variable {extension : String} {entries : List DirectoryEntry} {fs gs : List SourceFile}

lemma isSubsystemName_iff {name : String} :
    isSubsystemName extension name = true ↔ Named extension name := by
  have hhidden : name.toList.head? = some '.' ↔ ∃ rest, name = "." ++ rest := by
    rw [List.head?_eq_some_iff]
    constructor
    · rintro ⟨cs, hcs⟩
      exact ⟨String.ofList cs, String.toList_inj.1 (by simp [hcs])⟩
    · rintro ⟨rest, rfl⟩
      exact ⟨rest.toList, String.toList_append⟩
  have hending : Path.hasEnding name ("." ++ extension) = true ↔
      ∃ stem, name = stem ++ "." ++ extension := by
    rw [Path.hasEnding, List.isSuffixOf_iff_suffix]
    constructor
    · rintro ⟨cs, hcs⟩
      exact ⟨String.ofList cs, String.toList_inj.1 (by simp [← hcs])⟩
    · rintro ⟨stem, rfl⟩
      exact ⟨stem.toList, by simp⟩
  rw [isSubsystemName, Bool.and_eq_true, bne_iff_ne, Ne, hhidden, hending]
  exact ⟨fun h => ⟨h.1, h.2⟩, fun h => ⟨h.not_hidden, h.has_ending⟩⟩

lemma source?_eq_some_iff {e : DirectoryEntry} {f : SourceFile} : source? extension e = some f ↔
    Named extension f.name ∧ e.name = f.name.toUTF8 ∧ e.content = some f.content := by
  rw [source?]
  cases hname : String.fromUTF8? e.name with
  | none =>
    simp only [reduceCtorEq, false_iff]
    rintro ⟨-, hbytes, -⟩
    rw [Text.fromUTF8?_eq_some_iff.2 hbytes] at hname
    cases hname
  | some name =>
    have hbytes := Text.fromUTF8?_eq_some_iff.1 hname
    have hiff : e.name = f.name.toUTF8 ↔ name = f.name := by
      rw [hbytes]
      exact String.toByteArray_inj
    dsimp only
    rw [hiff]
    split
    next hnamed =>
      rw [Option.map_eq_some_iff]
      constructor
      · rintro ⟨content, hcontent, rfl⟩
        exact ⟨isSubsystemName_iff.1 hnamed, rfl, hcontent⟩
      · rintro ⟨-, rfl, hcontent⟩
        exact ⟨f.content, hcontent, rfl⟩
    next hnamed =>
      simp only [reduceCtorEq, false_iff]
      rintro ⟨h, rfl, -⟩
      exact hnamed (isSubsystemName_iff.2 h)

/-- The files that entries are, in the order of their names. -/
lemma lists_of_perm (hfs : fs.Perm (entries.filterMap (source? extension)))
    (hascending : fs.Pairwise fun f g => f.name < g.name) : Lists extension entries fs where
  mem_iff f := by
    rw [hfs.mem_iff, List.mem_filterMap]
    simp only [source?_eq_some_iff]
    constructor
    · rintro ⟨e, he, hnamed, h⟩
      exact ⟨hnamed, e, he, h⟩
    · rintro ⟨hnamed, e, he, h⟩
      exact ⟨e, he, hnamed, h⟩
  ascending := hascending.imp Text.utf8_lt_utf8

/-- The files that are compiled are those that the directory has. -/
lemma lists_sources (hnames : (entries.map (·.name)).Nodup) :
    Lists extension entries (sources extension entries) := by
  have hperm := List.mergeSort_perm (entries.filterMap (source? extension))
    fun a b => a.name ≤ b.name
  have hsorted : (sources extension entries).Pairwise fun f g => f.name ≤ g.name := by
    refine (List.pairwise_mergeSort ?_ ?_ _).imp of_decide_eq_true
    · simpa using fun a b c => le_trans
    · simpa using fun a b => le_total _ _
  -- no name stands in the directory twice
  have hdistinct : (sources extension entries).Pairwise fun f g => f.name ≠ g.name := by
    refine (hperm.pairwise_iff fun h => h.symm).2 (List.pairwise_filterMap.2 ?_)
    refine (List.pairwise_map.1 hnames).imp fun {e e'} hne f hf g hg hfg => hne ?_
    rw [(source?_eq_some_iff.1 hf).2.1, (source?_eq_some_iff.1 hg).2.1, hfg]
  exact lists_of_perm hperm ((hsorted.and hdistinct).imp fun h => lt_of_le_of_ne h.1 h.2)

/-- A directory has the files in one order only. -/
lemma Lists.unique (h : Lists extension entries fs) (h' : Lists extension entries gs) : fs = gs := by
  have hnodup {hs : List SourceFile} (h : Lists extension entries hs) : hs.Nodup :=
    h.ascending.imp fun {f g} hlt (heq : f = g) => List.lt_irrefl _ (heq ▸ hlt)
  have hperm : fs.Perm gs := (List.perm_ext_iff_of_nodup (hnodup h) (hnodup h')).2 fun f =>
    (h.mem_iff f).trans (h'.mem_iff f).symm
  exact hperm.eq_of_pairwise (fun f g _ _ hfg hgf => absurd hgf (List.lt_asymm hfg)) h.ascending
    h'.ascending

end Package

/-! ### What is done by then -/

/-- From one catalog to the other the relations of some classes have been made, in order, and
nothing else. -/
structure Catalog.GainsRelations (types : TypeDictionary) (ms : List (String × Model.Class))
    (c c' : Catalog) : Prop where
  history : ∃ rs, List.Forall₂ (fun m r => relationOf types m.2 = .ok r) ms rs ∧
    c'.history = c.history ++ rs.map .relation
  constraints_eq : c'.constraints = c.constraints

/-- Of the classes `ms` those before the first that gets no relation have got theirs, and the
compilation has ended for the reason why this one gets none. -/
def Stopped.AtFirst (types : TypeDictionary) (start : Catalog) (ms : List (String × Model.Class))
    (stop : Stopped Catalog) : Prop :=
  ∃ before domain c after e, ms = before ++ (domain, c) :: after ∧
    start.GainsRelations types before stop.store ∧
    (∀ b : Build Catalog, b.store = stop.store → b.addClass types domain c = .error e) ∧
    stop.error = .build e

section

variable {types : TypeDictionary} {start : Catalog} {ss : List Subsystem}

lemma Plan.gainsRelations_of_execute {ms : List (String × Model.Class)} {c : Catalog}
    (h : execute (classSteps types ms) start = .ok c) : start.GainsRelations types ms c := by
  obtain ⟨htyped, -, rfl⟩ := execute_classSteps_eq_ok_iff.1 h
  refine ⟨⟨ms.map fun m => relation types m.2, ?_, Catalog.history_addAll _ _⟩,
    Catalog.constraints_addAll_relations _ _⟩
  rw [List.forall₂_map_right_iff, List.forall₂_same]
  exact fun m hm => relationOf_eq_of_typed (htyped m hm)

namespace Run

lemma gainsRelations_of_materializeAll {run : Run Catalog}
    (h : materializeAll types ss (.start start) = .ok run) :
    start.GainsRelations types (materialized ss) run.build.store := by
  have hstore := materializeAll_store types ss (.start start)
  rw [h, map_ok] at hstore
  exact Plan.gainsRelations_of_execute hstore.symm

lemma atFirst_of_materializeAll {stop : Stopped Catalog}
    (h : materializeAll types ss (.start start) = .error stop) :
    stop.AtFirst types start (materialized ss) := by
  have hstore := materializeAll_store types ss (.start start)
  rw [h, map_error] at hstore
  obtain ⟨before, x, rest, e, hsplit, hbefore, hx, he⟩ :=
    Plan.exists_of_execute_error hstore.symm
  obtain ⟨ms, tail, hms, rfl, htail⟩ := List.map_eq_append_iff.1 hsplit
  obtain ⟨⟨domain, c⟩, after, rfl, rfl, -⟩ := List.map_eq_cons_iff.1 htail
  have hmem : (domain, c) ∈ materialized ss := by simp [hms]
  obtain ⟨s, -, d, -, hown, heq⟩ := mem_materialized.1 hmem
  obtain ⟨-, rfl⟩ := Prod.mk.inj heq
  refine ⟨ms, domain, c, after, e, hms, Plan.gainsRelations_of_execute hbefore, ?_, he⟩
  intro b hb
  rw [Build.addClass_eq hown, hb, hx, map_error]

end Run

end

/-! ### Reading and compiling by turns -/

namespace Package

/-- The files hold these subsystems. -/
abbrev Hold (directory extension : String) : List SourceFile → List Subsystem → Prop :=
  List.Forall₂ fun f s => f.subsystem directory extension = .ok s

section

variable {σ : Type} [Store σ] {types : TypeDictionary} {directory extension : String}
  {fs before after : List SourceFile} {f : SourceFile} {ss : List Subsystem}

/-- As long as files can be read, their subsystems are gone through as if they were all at hand. -/
lemma materialize_append (h : Hold directory extension before ss) (rest : List SourceFile)
    (run : Run σ) :
    materialize types directory extension (before ++ rest) run =
      (do
        let run ← Run.materializeAll types ss run
        let (ts, run) ← materialize types directory extension rest run
        .ok (ss ++ ts, run)) := by
  induction h generalizing run with
  | nil =>
    rw [List.nil_append, Run.materializeAll, ok_bind]
    cases materialize types directory extension rest run <;> rfl
  | @cons f s before ss hf _ ih =>
    rw [List.cons_append, materialize, hf, Run.materializeAll]
    dsimp only
    cases Run.materialize types s run with
    | error stop => rfl
    | ok run' =>
      rw [ok_bind, ok_bind, ih run']
      cases Run.materializeAll types ss run' with
      | error stop => rfl
      | ok run'' =>
        rw [ok_bind, ok_bind]
        cases materialize types directory extension rest run'' <;> rfl

lemma materialize_of_hold (h : Hold directory extension fs ss) (run : Run σ) :
    materialize types directory extension fs run =
      (Run.materializeAll types ss run).map fun run => (ss, run) := by
  have happend : materialize types directory extension (fs ++ []) run = _ :=
    materialize_append h [] run
  rw [← List.append_nil fs, happend]
  cases Run.materializeAll types ss run with
  | error stop => rfl
  | ok run' => simp [materialize]

/-- At a file that cannot be read the compilation ends. -/
lemma materialize_of_bad (h : Hold directory extension before ss) {e : ModelError}
    (hf : f.subsystem directory extension = .error e) (after : List SourceFile) (run : Run σ) :
    materialize types directory extension (before ++ f :: after) run =
      (Run.materializeAll types ss run >>= fun run => .error ⟨.model e, run.build.store⟩) := by
  rw [materialize_append h]
  cases Run.materializeAll types ss run with
  | error stop => rfl
  | ok run' =>
    rw [ok_bind, ok_bind, materialize, hf]
    rfl

end

/-! ### The whole compilation -/

section

variable {σ : Type} [Store σ] {types : TypeDictionary} {store : σ} {directory extension : String}
  {entries : List DirectoryEntry} {fs before after : List SourceFile} {f : SourceFile}
  {ss : List Subsystem}

/-- When all files can be read, the package is compiled as its subsystems are. -/
lemma compile_of_hold (hfs : sources extension entries = fs)
    (h : Hold directory extension fs ss) :
    compile types store directory extension (.ok entries) =
      ClassSchema.compile types store ss := by
  rw [compile, ClassSchema.compile]
  dsimp only
  rw [hfs, materialize_of_hold h]
  cases Run.materializeAll types ss (.start store) with
  | error stop => rfl
  | ok run => rfl

/-- When a file cannot be read, the compilation ends there or at a class of a file before it. -/
lemma compile_of_bad (hfs : sources extension entries = before ++ f :: after)
    (h : Hold directory extension before ss) {e : ModelError}
    (hf : f.subsystem directory extension = .error e) :
    compile types store directory extension (.ok entries) =
      (Run.materializeAll types ss (.start store) >>= fun run =>
        .error ⟨.model e, run.build.store⟩) := by
  rw [compile]
  dsimp only
  rw [hfs, materialize_of_bad h hf]
  cases Run.materializeAll types ss (.start store) with
  | error stop => rfl
  | ok run => rfl

end

/-- **Packages.**  Let no name stand in the directory twice.  The files that hold subsystems can be
listed, and for the list of them: if all can be read, the package is compiled as their subsystems
are, with the same result and the same catalog after it.  If a file cannot be read, but the files
before it can, there are two cases.  Either the classes before it get their relations; then the
compilation ends with what is wrong with the file, and these relations have been made and nothing
else.  Or one of the classes gets none, and the compilation has ended there. -/
theorem compile_of_lists (types : TypeDictionary) (start : Catalog) (directory extension : String)
    (entries : List DirectoryEntry) (hnames : (entries.map (·.name)).Nodup) :
    (∃ fs, Lists extension entries fs) ∧
    ∀ fs, Lists extension entries fs →
      (∀ ss, Hold directory extension fs ss →
        compile types start directory extension (.ok entries) =
          ClassSchema.compile types start ss) ∧
      ∀ before f after ss e, fs = before ++ f :: after → Hold directory extension before ss →
        f.subsystem directory extension = .error e →
        (∀ run, Run.materializeAll types ss (.start start) = .ok run →
          ∃ c, compile types start directory extension (.ok entries) = .error ⟨.model e, c⟩ ∧
            start.GainsRelations types (materialized ss) c) ∧
        ∀ stop, Run.materializeAll types ss (.start start) = .error stop →
          compile types start directory extension (.ok entries) = .error stop ∧
            stop.AtFirst types start (materialized ss) := by
  have hsources : Lists extension entries (sources extension entries) := lists_sources hnames
  refine ⟨⟨_, hsources⟩, fun fs hfs => ⟨fun ss h => ?_, ?_⟩⟩
  · exact compile_of_hold (hsources.unique hfs) h
  · rintro before f after ss e rfl h hf
    rw [compile_of_bad (hsources.unique hfs) h hf]
    constructor
    · intro run hrun
      exact ⟨run.build.store, by rw [hrun, ok_bind], Run.gainsRelations_of_materializeAll hrun⟩
    · intro stop hstop
      exact ⟨by rw [hstop, error_bind], Run.atFirst_of_materializeAll hstop⟩

deriving instance DecidableEq for SourceFile

/-- A class with one attribute. -/
def pilot : Model.Class := ⟨"Pilot", none, [⟨"Licence", some "name", []⟩]⟩

/-- A file that holds a subsystem with the class. -/
def pilotFile : SourceFile where
  name := "a.json"
  content := .ok <|
    "\x7b\"classes\": [\x7b\"name\": \"Pilot\", \"attributes\": " ++
      "[\x7b\"name\": \"Licence\", \"type\": \"name\"\x7d]\x7d]\x7d"

/-- A file that holds a subsystem without classes. -/
def emptyFile : SourceFile := ⟨"b.json", .ok "\x7b\x7d"⟩

/-- What the two files hold. -/
def airfieldSubsystems : List Subsystem := [⟨"a", "", [pilot], []⟩, ⟨"b", "", [], []⟩]

/-- A file whose content is no text. -/
def scrambledFile : SourceFile := ⟨"c.json", .error .notText⟩

/-- A directory with two subsystems, a hidden file, a directory, a file with another extension and
one whose name is no text. -/
def airfield : List DirectoryEntry :=
  [⟨"b.json".toUTF8, some emptyFile.content⟩, ⟨".a.json".toUTF8, some pilotFile.content⟩,
    ⟨"a.json".toUTF8, some pilotFile.content⟩, ⟨"d.json".toUTF8, none⟩,
    ⟨"types.yaml".toUTF8, some (.ok "name: string")⟩,
    ⟨⟨#[0xff, 0x2e, 0x6a, 0x73, 0x6f, 0x6e]⟩, some pilotFile.content⟩]

/-- The same directory with a file that is no text. -/
def scrambledAirfield : List DirectoryEntry :=
  ⟨"c.json".toUTF8, some scrambledFile.content⟩ :: airfield

/-- The airfield is compiled as its two subsystems are.  With the file that is no text the
compilation ends at this file, after the relation of the pilot; without types it ends at the
pilot. -/
theorem compile_of_lists_airfield :
    compile ⟨.ofList [("name", .string)]⟩ Catalog.empty "airfield" "json" (.ok airfield) =
        ClassSchema.compile ⟨.ofList [("name", .string)]⟩ Catalog.empty airfieldSubsystems ∧
    (∃ c, compile ⟨.ofList [("name", .string)]⟩ Catalog.empty "airfield" "json"
          (.ok scrambledAirfield) = .error ⟨.model (.unreadable "airfield/c.json" .notText), c⟩ ∧
      Catalog.empty.GainsRelations ⟨.ofList [("name", .string)]⟩ [("", pilot)] c) ∧
    ∃ stop, compile ⟨.ofList []⟩ Catalog.empty "airfield" "json" (.ok scrambledAirfield) =
        .error stop ∧ stop.AtFirst ⟨.ofList []⟩ Catalog.empty [("", pilot)] := by
  have hlists : Lists "json" airfield [pilotFile, emptyFile] :=
    lists_of_perm (by decide +kernel) (by decide +kernel)
  have hlists' : Lists "json" scrambledAirfield [pilotFile, emptyFile, scrambledFile] :=
    lists_of_perm (by decide +kernel) (by decide +kernel)
  have hhold : Hold "airfield" "json" [pilotFile, emptyFile] airfieldSubsystems :=
    .cons (by decide +kernel) (.cons (by decide +kernel) .nil)
  have hbad : scrambledFile.subsystem "airfield" "json" =
      .error (.unreadable "airfield/c.json" .notText) := by decide +kernel
  refine ⟨?_, ?_, ?_⟩
  · obtain ⟨-, h⟩ := compile_of_lists ⟨.ofList [("name", .string)]⟩ Catalog.empty "airfield" "json"
      airfield (by decide +kernel)
    exact (h _ hlists).1 _ hhold
  · obtain ⟨-, h⟩ := compile_of_lists ⟨.ofList [("name", .string)]⟩ Catalog.empty "airfield" "json"
      scrambledAirfield (by decide +kernel)
    obtain ⟨hmade, -⟩ := (h _ hlists').2 [pilotFile, emptyFile] scrambledFile [] _ _ rfl hhold hbad
    have hok : (Run.materializeAll ⟨.ofList [("name", .string)]⟩ airfieldSubsystems
        (.start Catalog.empty)).toBool = true := by decide +kernel
    cases hrun : Run.materializeAll ⟨.ofList [("name", .string)]⟩ airfieldSubsystems
        (.start Catalog.empty) with
    | error stop => rw [hrun] at hok; cases hok
    | ok run => exact hmade run hrun
  · obtain ⟨-, h⟩ := compile_of_lists ⟨.ofList []⟩ Catalog.empty "airfield" "json"
      scrambledAirfield (by decide +kernel)
    obtain ⟨-, hstopped⟩ :=
      (h _ hlists').2 [pilotFile, emptyFile] scrambledFile [] _ _ rfl hhold hbad
    have herror : (Run.materializeAll ⟨.ofList []⟩ airfieldSubsystems
        (.start Catalog.empty)).toBool = false := by decide +kernel
    cases hrun : Run.materializeAll ⟨.ofList []⟩ airfieldSubsystems (.start Catalog.empty) with
    | error stop => exact ⟨stop, hstopped stop hrun⟩
    | ok run => rw [hrun] at herror; cases herror

end Package

end ClassSchema
