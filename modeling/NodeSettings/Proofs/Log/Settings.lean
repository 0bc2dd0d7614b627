import NodeSettings.Log.Settings
import NodeSettings.Proofs.Text.Utf8

/-!
# What the settings of the log depend on

The file of variables is resolved binding after binding, and a binding sees of the environment only
the names that its value refers to. So environments that agree on the variables of the log and on
all names that the file refers to give the same settings. A variable of the environment settles its
setting alone, whatever the file holds.
-/

namespace NodeSettings.Document

/-! ### Resolving in two environments -/

theorem scopeOf_congr {env env' : Environment} {name : Text} (h : env name = env' name)
    (resolved : List Pair) : scopeOf env resolved name = scopeOf env' resolved name := by
  simp only [scopeOf, h]

theorem map_resolveValue_congr {env env' : Environment} {value : Option Text}
    (h : ∀ r ∈ references (value.getD []), env r.name = env' r.name) (resolved : List Pair) :
    value.map (resolveValue (scopeOf env resolved))
      = value.map (resolveValue (scopeOf env' resolved)) := by
  cases value with
  | none => rfl
  | some text =>
    have hscope : ∀ r ∈ references text,
        scopeOf env resolved r.name = scopeOf env' resolved r.name :=
      fun r hr => scopeOf_congr (h r hr) resolved
    rw [Option.map_some, Option.map_some, resolveValue_congr hscope]

theorem resolveAfter_congr {env env' : Environment} {pairs : List Pair}
    (h : ∀ pair ∈ pairs, ∀ r ∈ references (pair.2.getD []), env r.name = env' r.name)
    (resolved : List Pair) :
    resolveAfter env resolved pairs = resolveAfter env' resolved pairs := by
  -- on the pairs, for all that is resolved before them: that is the same in both environments
  induction pairs generalizing resolved with
  | nil => rfl
  | cons pair rest ih =>
    obtain ⟨key, value⟩ := pair
    have hvalue := map_resolveValue_congr (h (key, value) List.mem_cons_self) resolved
    have hrest := ih fun p hp => h p (List.mem_cons_of_mem (key, value) hp)
    rw [resolveAfter, resolveAfter, hvalue, hrest]

end NodeSettings.Document

namespace NodeSettings.Log

/-! ### One setting -/

abbrev Variable.Value : Variable → Type
  | .level | .format | .dateFormat => Text
  | .highlighting | .fileOutput => Bool

/-- The setting that a text stands for. -/
def Variable.reading : (v : Variable) → Text → v.Value
  | .level, s | .format, s | .dateFormat, s => s
  | .highlighting, s | .fileOutput, s => isOn s

namespace Settings

def get : (v : Variable) → Settings → v.Value
  | .level, s => s.level
  | .format, s => s.format
  | .dateFormat, s => s.dateFormat
  | .highlighting, s => s.highlighting
  | .fileOutput, s => s.fileOutput

theorem get_ofPairs (v : Variable) (env : Environment) (pairs : List Document.Pair) :
    (ofPairs env pairs).get v = v.reading (v.value env pairs) := by
  cases v <;> rfl

theorem ext_get {s s' : Settings} (h : ∀ v, s.get v = s'.get v) : s = s' := by
  obtain ⟨level, format, dateFormat, highlighting, fileOutput⟩ := s
  have hlevel := h .level
  have hformat := h .format
  have hdate := h .dateFormat
  have hhighlighting := h .highlighting
  have hfile := h .fileOutput
  simp only [get] at hlevel hformat hdate hhighlighting hfile
  rw [hlevel, hformat, hdate, hhighlighting, hfile]

theorem ofPairs_congr {env env' : Environment} (h : ∀ v : Variable, env v.name = env' v.name)
    (pairs : List Document.Pair) : ofPairs env pairs = ofPairs env' pairs := by
  apply ext_get
  intro v
  rw [get_ofPairs, get_ofPairs, Variable.value, Variable.value, h v]

/-! ### Settings over a file -/

theorem load_of_text {read : FileReader} {document : Text}
    (h : read.Holds fileName document) (env : Environment) :
    load read env = .ok (ofDocument env document) := by
  obtain ⟨octets, hread, hencode⟩ := h
  simp only [load, hread, Utf8.decode_of_encode hencode]
  rfl

theorem ofDocument_congr {env env' : Environment} {document : Text}
    (h : ∀ v : Variable, env v.name = env' v.name)
    (hnames : ∀ name ∈ namesIn document, env name = env' name) :
    ofDocument env document = ofDocument env' document := by
  have href : ∀ pair ∈ pairsIn document, ∀ r ∈ Document.references (pair.2.getD []),
      env r.name = env' r.name := by
    intro pair hp r hr
    exact hnames r.name (List.mem_flatMap.mpr ⟨pair, hp, List.mem_map.mpr ⟨r, hr, rfl⟩⟩)
  have hpairs : Document.resolvePairs env (pairsIn document)
      = Document.resolvePairs env' (pairsIn document) := Document.resolveAfter_congr href []
  rw [ofDocument, ofDocument, hpairs, ofPairs_congr h]

theorem get_ofPairs_of_environment {env : Environment} {v : Variable} {value : Text}
    (h : env v.name = some value) (pairs : List Document.Pair) :
    (ofPairs env pairs).get v = v.reading value := by
  rw [get_ofPairs, Variable.value, h]

/-- Environments that agree on the variables of the log and on the names that the file of variables
refers to give the same settings, and a variable that the environment has, even without text, gives
its setting alone. -/
theorem load_by_named {read : FileReader} {document : Text}
    (h : read.Holds fileName document) (env : Environment) :
    ∃ settings, load read env = .ok settings ∧
      (∀ env' : Environment, (∀ v : Variable, env v.name = env' v.name) →
        (∀ name ∈ namesIn document, env name = env' name) → load read env' = .ok settings) ∧
      ∀ (v : Variable) (value : Text), env v.name = some value →
        settings.get v = v.reading value := by
  refine ⟨ofDocument env document, load_of_text h env, ?_, ?_⟩
  · intro env' hvariables hnames
    rw [load_of_text h env', ofDocument_congr hvariables hnames]
  · intro v value hv
    exact get_ofPairs_of_environment hv _

theorem load_by_named_chained :
    let document : String := "A=$\x7bHOME:-x\x7d\nLOG_FORMAT='$\x7bA\x7d $\x7bUSER:-me\x7d'\n"
      ++ "LOG_LEVEL=$\x7bA\x7d\nA\nLOG_DATE_FORMAT=d$\x7bA\x7d"
    let read : FileReader := fun _ => .ok (Utf8.ofString document)
    let common : List (Text × Text) :=
      [("HOME", "h"), ("LOG_LEVEL", ""), ("LOG_FILE_OUTPUT", " TRUE")]
    let env : Environment := fun name => ((("PATH" : Text), ("a" : Text)) :: common).lookup name
    let env' : Environment := fun name => ((("LANG" : Text), ("b" : Text)) :: common).lookup name
    let settings : Settings :=
      { level := "", format := "h me", dateFormat := "d", highlighting := true, fileOutput := true }
    (read.Holds fileName document ∧ (∀ v : Variable, env v.name = env' v.name) ∧
      (∀ name ∈ namesIn document, env name = env' name) ∧ env Variable.level.name = some []) ∧
    load read env = .ok settings ∧ load read env' = .ok settings ∧
      settings.get .level = Variable.level.reading [] := by
  intro document read common env env' settings
  have h : read.Holds fileName document := FileReader.holds_ofString rfl
  have hvariables : ∀ v : Variable, env v.name = env' v.name := by
    intro v
    cases v <;> decide
  have hnames : ∀ name ∈ namesIn document, env name = env' name := by decide +kernel
  have hlevel : env Variable.level.name = some [] := by decide
  have hsettings : ofDocument env document = settings := by decide +kernel
  obtain ⟨found, hfound, hsame, hown⟩ := load_by_named h env
  have hfirst : found = settings := by
    rw [load_of_text h, hsettings, Except.ok.injEq] at hfound
    exact hfound.symm
  subst hfirst
  exact ⟨⟨h, hvariables, hnames, hlevel⟩, hfound, hsame env' hvariables hnames,
    hown .level [] hlevel⟩

end Settings

end NodeSettings.Log
